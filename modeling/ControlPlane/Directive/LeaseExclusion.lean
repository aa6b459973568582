import ControlPlane.Directive.ControllerLease
import Mathlib.Tactic.Linarith

/-!
# At most one active controller

Where no call is disturbed between its look and its write, the times for which two controllers were
told `True` lie apart. Two calls that both find no file are both told.
-/

namespace ControlPlane.Directive

open ControlPlane.Data ControlPlane.Interleaving

variable {host : Host} {ttl : String → PyFloat} {w w' : LeaseWorld} {l : LeaseLabel} {past : LeasePast} {i j : Nat}
  {c d : String} {now : ℚ} {g h : Told} {file seen : Option (List Char)} {clock : ℚ}

/-! ### Reading a lease -/

theorem loads_leaseText : Json.loads host.floats (String.ofList (leaseText host ttl c now)) =
    some (.dict (leaseRecord ttl c now)) := by
  have keyed : Json.Keyed (.dict (leaseRecord ttl c now)) := by
    refine ⟨?_, trivial, trivial, trivial, trivial⟩
    unfold Dict.Distinct Dict.keys leaseRecord
    simp only [List.map_cons, List.map_nil]
    decide
  have read := @Json.loads_text_append host.floats _ _ ['\n'] Json.spaced_default keyed (Json.ended_cons (by decide))
  exact read

theorem blocks_leaseText : blocks host c clock (leaseText host ttl d now) = true ↔
    d ≠ c ∧ PyFloat.fin clock < .fin now + ttl d := by
  have owner : (Record.field (leaseRecord ttl d now) "owner").str? = some d := rfl
  have expires : (fieldOr (leaseRecord ttl d now) "expires_at" (.int 0)).number? = some (.fin now + ttl d) := rfl
  unfold blocks
  rw [loads_leaseText]
  simp [owner, expires]

theorem ownLater_leaseText : ownLater host c clock (leaseText host ttl d now) = true ↔ d = c ∧ clock < now := by
  have owner : (Record.field (leaseRecord ttl d now) "owner").str? = some d := rfl
  have acquired : (Record.field (leaseRecord ttl d now) "acquired_at").number? = some (.fin now) := rfl
  unfold ownLater
  rw [loads_leaseText]
  simp [owner, acquired, PyFloat.fin_lt_fin]

/-- A lease that was acquired earlier does not last longer. -/
theorem expires_mono {earlier later t : ℚ} {x : PyFloat} (order : earlier ≤ later) (ahead : PyFloat.fin t < .fin earlier + x) :
    PyFloat.fin t < .fin later + x := by
  cases x with
  | fin q =>
    have before : t < earlier + q := PyFloat.fin_lt_fin.mp ahead
    have after : t < later + q := by linarith
    exact PyFloat.fin_lt_fin.mpr after
  | posInf => exact ahead
  | negInf => exact ahead
  | nan => exact ahead

/-! ### The invariant -/

/-- Every controller that was told is the one that wrote last, and not later than by this lease, or its
time is over. -/
def Settled (ttl : String → PyFloat) (w : LeaseWorld) (c : String) (now : ℚ) : Prop :=
  ∀ g ∈ w.told, g.controllerId = c ∧ g.now ≤ now ∨ ¬ PyFloat.fin w.clock < g.expires ttl

/-- What is known of the file. -/
inductive LeaseFile (host : Host) (ttl : String → PyFloat) (w : LeaseWorld) : Prop where
  | untouched (nobody : w.told = []) (quiet : ∀ j, ¬ w.Writes j)
  | half {i : Nat} {c : String} {now : ℚ} {written rest : List Char} (here : w.calls i = some ⟨c, now, .writing written rest⟩)
    (text : written ++ rest = leaseText host ttl c now) (file : w.file = some written) (quiet : ∀ j, j ≠ i → ¬ w.Writes j)
    (settled : Settled ttl w c now)
  | whole {c : String} {now : ℚ} (file : w.file = some (leaseText host ttl c now)) (quiet : ∀ j, ¬ w.Writes j)
    (settled : Settled ttl w c now)

structure LeaseInv (host : Host) (ttl : String → PyFloat) (w : LeaseWorld) : Prop where
  file : LeaseFile host ttl w
  past : ∀ i call, w.calls i = some call → call.now ≤ w.clock
  unblocked : ∀ i c now seen, w.calls i = some ⟨c, now, .cleared seen⟩ → blocks host c now (seen.getD []) = false
  apart : ∀ g ∈ w.told, ∀ h ∈ w.told, g.controllerId ≠ h.controllerId → Apart ttl g h

theorem Settled.later {w' : LeaseWorld} (settled : Settled ttl w c now) (told : w'.told = w.told) (order : w.clock ≤ w'.clock) :
    Settled ttl w' c now := by
  intro g member
  rw [told] at member
  rcases settled g member with own | ended
  · exact .inl own
  · exact .inr fun ahead => ended (PyFloat.lt_of_earlier order ahead)

/-! ### Steps that do not touch the file -/

/-- What a step leaves alone that neither writes nor returns. -/
structure Aside (w w' : LeaseWorld) : Prop where
  file : w'.file = w.file
  told : w'.told = w.told
  clock : w.clock ≤ w'.clock
  writers : ∀ j c now written rest,
    w'.calls j = some ⟨c, now, .writing written rest⟩ ↔ w.calls j = some ⟨c, now, .writing written rest⟩

theorem Aside.writes (aside : Aside w w') : w'.Writes j ↔ w.Writes j := by
  unfold LeaseWorld.Writes
  simp only [aside.writers]

theorem LeaseFile.aside (file : LeaseFile host ttl w) (aside : Aside w w') : LeaseFile host ttl w' := by
  cases file with
  | untouched nobody quiet => exact .untouched (aside.told.trans nobody) fun j writes => quiet j (aside.writes.mp writes)
  | half here text file quiet settled =>
    exact .half ((aside.writers ..).mpr here) text (aside.file.trans file) (fun j other writes => quiet j other (aside.writes.mp writes))
      (settled.later aside.told aside.clock)
  | whole file quiet settled =>
    exact .whole (aside.file.trans file) (fun j writes => quiet j (aside.writes.mp writes)) (settled.later aside.told aside.clock)

/-- A call moves on and stays a reader. -/
theorem aside_put {before after : Option LeaseCall} (here : w.calls i = before)
    (reader : ∀ c now written rest, before ≠ some ⟨c, now, .writing written rest⟩)
    (reader' : ∀ c now written rest, after ≠ some ⟨c, now, .writing written rest⟩) : Aside w (w.put i after) where
  file := rfl
  told := rfl
  clock := le_refl _
  writers j c now written rest := by
    by_cases same : j = i
    · subst same
      simp [LeaseWorld.put, here, reader, reader']
    · simp [LeaseWorld.put, Function.update_of_ne same]

theorem put_calls {after : Option LeaseCall} {call : LeaseCall} (found : (w.put i after).calls j = some call) :
    j = i ∧ after = some call ∨ j ≠ i ∧ w.calls j = some call := by
  by_cases same : j = i
  · subst same
    exact .inl ⟨rfl, by simpa [LeaseWorld.put] using found⟩
  · exact .inr ⟨same, by simpa [LeaseWorld.put, Function.update_of_ne same] using found⟩

/-- A call that moves on keeps the invariant if its own state does. -/
theorem LeaseInv.put {before after : Option LeaseCall} (inv : LeaseInv host ttl w) (here : w.calls i = before)
    (reader : ∀ c now written rest, before ≠ some ⟨c, now, .writing written rest⟩)
    (reader' : ∀ c now written rest, after ≠ some ⟨c, now, .writing written rest⟩)
    (past : ∀ call, after = some call → call.now ≤ w.clock)
    (unblocked : ∀ c now seen, after = some ⟨c, now, .cleared seen⟩ → blocks host c now (seen.getD []) = false) :
    LeaseInv host ttl (w.put i after) where
  file := inv.file.aside (aside_put here reader reader')
  past j call found := by
    rcases put_calls found with ⟨-, same⟩ | ⟨-, old⟩
    · exact past call same
    · exact inv.past j call old
  unblocked j c now seen found := by
    rcases put_calls found with ⟨-, same⟩ | ⟨-, old⟩
    · exact unblocked c now seen same
    · exact inv.unblocked j c now seen old
  apart := inv.apart

theorem blocks_nil : blocks host c now [] = false := rfl

theorem unblocked_exists (same : afterExists file = .cleared seen) : blocks host c now (seen.getD []) = false := by
  unfold afterExists at same
  split at same
  · cases same
  · rename_i absent
    cases file with
    | none =>
      cases same
      exact blocks_nil
    | some content => simp at absent

/-! ### Steps on the file -/

/-- The one call that writes. -/
theorem LeaseFile.writer {written rest : List Char} (file : LeaseFile host ttl w)
    (here : w.calls i = some ⟨c, now, .writing written rest⟩) :
    written ++ rest = leaseText host ttl c now ∧ w.file = some written ∧ (∀ j, j ≠ i → ¬ w.Writes j) ∧ Settled ttl w c now := by
  have writes : w.Writes i := ⟨c, now, written, rest, here⟩
  cases file with
  | untouched nobody quiet => exact absurd writes (quiet i)
  | half here' text file quiet settled =>
    rename_i i' c' now' written' rest'
    have same : i = i' := by
      by_contra other
      exact quiet i other writes
    subst same
    rw [here'] at here
    cases here
    exact ⟨text, file, quiet, settled⟩
  | whole file quiet settled => exact absurd writes (quiet i)

theorem quiet_put {after : Option LeaseCall} (quiet : ∀ j, j ≠ i → ¬ w.Writes j) : ∀ j, j ≠ i → ¬ (w.put i after).Writes j := by
  intro j other writes
  obtain ⟨c, now, written, rest, found⟩ := writes
  rcases put_calls found with ⟨same, -⟩ | ⟨-, old⟩
  · exact other same
  · exact quiet j other ⟨c, now, written, rest, old⟩

/-- The lease that a call has seen and overwrites: its own, not a later one, or one that has expired. -/
theorem settled_emptied {c₀ : String} {now₀ : ℚ} (settled : Settled ttl w c₀ now₀) (order : now ≤ w.clock)
    (unblocked : blocks host c now (leaseText host ttl c₀ now₀) = false)
    (notLater : ownLater host c now (leaseText host ttl c₀ now₀) = false) : Settled ttl w c now := by
  intro g member
  have free : ¬ (c₀ ≠ c ∧ PyFloat.fin now < .fin now₀ + ttl c₀) := by
    rw [← @blocks_leaseText host, unblocked]
    simp
  have early : ¬ (c₀ = c ∧ now < now₀) := by
    rw [← @ownLater_leaseText host ttl, notLater]
    simp
  rcases settled g member with ⟨own, before⟩ | ended
  · by_cases same : c₀ = c
    · left
      have order' : now₀ ≤ now := by
        by_contra later
        exact early ⟨same, not_le.mp later⟩
      exact ⟨own.trans same, before.trans order'⟩
    · right
      intro ahead
      unfold Told.expires at ahead
      rw [own] at ahead
      exact free ⟨same, PyFloat.lt_of_earlier order (expires_mono before ahead)⟩
  · exact .inr ended

theorem LeaseInv.emptied (inv : LeaseInv host ttl w) (here : w.calls i = some ⟨c, now, .cleared seen⟩)
    (undisturbed : Undisturbed host w i) : LeaseInv host ttl
      { w.put i (some ⟨c, now, .writing [] (leaseText host ttl c now)⟩) with file := some [] } := by
  obtain ⟨same, others, notLater⟩ := undisturbed c now seen here
  have order : now ≤ w.clock := inv.past i _ here
  have unblocked := inv.unblocked i c now seen here
  have settled : Settled ttl w c now := by
    cases inv.file with
    | untouched nobody quiet =>
      intro g member
      rw [nobody] at member
      cases member
    | half here' text file quiet settled =>
      rename_i i' c' now' written rest
      by_cases own : i' = i
      · rw [own, here] at here'
        cases here'
      · exact absurd ⟨c', now', written, rest, here'⟩ (others i' own)
    | whole file quiet settled =>
      rw [← same, file] at unblocked notLater
      exact settled_emptied settled order unblocked notLater
  have first : (w.put i (some ⟨c, now, .writing [] (leaseText host ttl c now)⟩)).calls i =
      some ⟨c, now, .writing [] (leaseText host ttl c now)⟩ := by
    simp [LeaseWorld.put]
  refine ⟨.half first rfl rfl (quiet_put others) settled, ?_, ?_, inv.apart⟩
  · intro j call found
    rcases put_calls found with ⟨-, new⟩ | ⟨-, old⟩
    · obtain rfl := Option.some.inj new
      exact order
    · exact inv.past j call old
  · intro j d now' seen' found
    rcases put_calls found with ⟨-, new⟩ | ⟨-, old⟩
    · cases new
    · exact inv.unblocked j d now' seen' old

theorem writeAt_end {written chunk : List Char} : writeAt written written.length chunk = written ++ chunk := by
  simp [writeAt]

theorem LeaseInv.wrote {written chunk rest : List Char} (inv : LeaseInv host ttl w)
    (here : w.calls i = some ⟨c, now, .writing written (chunk ++ rest)⟩) : LeaseInv host ttl
      { w.put i (some ⟨c, now, .writing (written ++ chunk) rest⟩) with
        file := some (writeAt (w.file.getD []) written.length chunk) } := by
  obtain ⟨text, file, quiet, settled⟩ := inv.file.writer here
  have longer : writeAt (w.file.getD []) written.length chunk = written ++ chunk := by
    rw [file, Option.getD_some, writeAt_end]
  have text' : (written ++ chunk) ++ rest = leaseText host ttl c now := by
    rw [List.append_assoc, text]
  have next : (w.put i (some ⟨c, now, .writing (written ++ chunk) rest⟩)).calls i =
      some ⟨c, now, .writing (written ++ chunk) rest⟩ := by
    simp [LeaseWorld.put]
  have order : now ≤ w.clock := inv.past i _ here
  refine ⟨.half next text' (congrArg some longer) (quiet_put quiet) settled, ?_, ?_, inv.apart⟩
  · intro j call found
    rcases put_calls found with ⟨-, new⟩ | ⟨-, old⟩
    · obtain rfl := Option.some.inj new
      exact order
    · exact inv.past j call old
  · intro j d now' seen' found
    rcases put_calls found with ⟨-, new⟩ | ⟨-, old⟩
    · cases new
    · exact inv.unblocked j d now' seen' old

/-- Who is told now is apart from whoever else was told. -/
theorem apart_now (settled : Settled ttl w c now) (member : h ∈ w.told) (other : h.controllerId ≠ c) :
    Apart ttl ⟨c, now, w.clock⟩ h := by
  intro both
  obtain ⟨t, after, -, -, ahead⟩ := both
  rcases settled h member with ⟨own, -⟩ | ended
  · exact other own
  · exact ended (PyFloat.lt_of_earlier after ahead)

theorem Apart.symm (apart : Apart ttl g h) : Apart ttl h g := by
  intro both
  obtain ⟨t, after, ahead, after', ahead'⟩ := both
  exact apart ⟨t, after', ahead', after, ahead⟩

theorem LeaseInv.returned {written : List Char} (inv : LeaseInv host ttl w)
    (here : w.calls i = some ⟨c, now, .writing written []⟩) :
    LeaseInv host ttl { w.put i none with told := ⟨c, now, w.clock⟩ :: w.told } := by
  obtain ⟨text, file, quiet, settled⟩ := inv.file.writer here
  rw [List.append_nil] at text
  have settled' : Settled ttl { w.put i none with told := ⟨c, now, w.clock⟩ :: w.told } c now := by
    intro g member
    rcases List.mem_cons.mp member with rfl | member
    · exact .inl ⟨rfl, le_refl _⟩
    · exact settled g member
  have quiet' : ∀ j, ¬ LeaseWorld.Writes { w.put i none with told := ⟨c, now, w.clock⟩ :: w.told } j := by
    intro j writes
    obtain ⟨d, now', written', rest, found⟩ := writes
    rcases put_calls found with ⟨-, new⟩ | ⟨other, old⟩
    · cases new
    · exact quiet j other ⟨d, now', written', rest, old⟩
  refine ⟨.whole (file.trans (congrArg some text)) quiet' settled', ?_, ?_, ?_⟩
  · intro j call found
    rcases put_calls found with ⟨-, new⟩ | ⟨-, old⟩
    · cases new
    · exact inv.past j call old
  · intro j d now' seen' found
    rcases put_calls found with ⟨-, new⟩ | ⟨-, old⟩
    · cases new
    · exact inv.unblocked j d now' seen' old
  · intro g first h second other
    rcases List.mem_cons.mp first with rfl | first
    · rcases List.mem_cons.mp second with rfl | second
      · exact absurd rfl other
      · exact apart_now settled second (Ne.symm other)
    · rcases List.mem_cons.mp second with rfl | second
      · exact (apart_now settled first other).symm
      · exact inv.apart g first h second other

/-- What every step keeps, if it empties the file only undisturbed. -/
theorem LeaseInv.step (inv : LeaseInv host ttl w) (step : LeaseStep host ttl w l w')
    (undisturbed : ∀ i, l = .emptied i → Undisturbed host w i) : LeaseInv host ttl w' := by
  cases step with
  | passed later =>
    refine ⟨inv.file.aside ⟨rfl, rfl, later, fun _ _ _ _ _ => Iff.rfl⟩, ?_, inv.unblocked, inv.apart⟩
    intro i call found
    exact (inv.past i call found).trans later
  | began c free =>
    refine inv.put free (by simp) (by simp) ?_ (by simp)
    intro call same
    obtain rfl := Option.some.inj same
    exact le_refl _
  | looked here =>
    rename_i i c now
    have order : now ≤ w.clock := inv.past i _ here
    refine inv.put here (by simp) ?_ ?_ ?_
    · intro c now written rest same
      simp only [Option.some.injEq, LeaseCall.mk.injEq] at same
      unfold afterExists at same
      split at same <;> simp at same
    · intro call same
      obtain rfl := Option.some.inj same
      exact order
    · intro c now seen same
      simp only [Option.some.injEq, LeaseCall.mk.injEq] at same
      exact unblocked_exists same.2.2
  | read here =>
    rename_i i c now
    have order : now ≤ w.clock := inv.past i _ here
    refine inv.put here (by simp) ?_ ?_ ?_
    · intro d now' written rest same
      unfold afterRead at same
      split at same <;> simp at same
    · intro call same
      unfold afterRead at same
      split at same
      · cases same
      · obtain rfl := Option.some.inj same
        exact order
    · intro d now' seen same
      unfold afterRead at same
      split at same
      · cases same
      · rename_i free
        simp only [Option.some.injEq, LeaseCall.mk.injEq, LeaseStage.cleared.injEq] at same
        obtain ⟨rfl, rfl, rfl⟩ := same
        simpa using free
  | emptied here => exact inv.emptied here (undisturbed _ rfl)
  | wrote nonempty here => exact inv.wrote here
  | returned here => exact inv.returned here

theorem leaseInv_start : LeaseInv host ttl (noCalls clock file) where
  file := by
    refine .untouched rfl fun j writes => ?_
    obtain ⟨c, now, written, rest, found⟩ := writes
    cases found
  past i call found := by cases found
  unblocked i c now seen found := by cases found
  apart g member := by cases member

/-- Where every call empties the file undisturbed, no two controllers are told for one moment. -/
theorem leases_apart (history : History (LeaseStep host ttl) (noCalls clock file) past w)
    (undisturbed : ∀ t ∈ past, ∀ i, t.label = .emptied i → Undisturbed host t.before i) :
    ∀ g ∈ w.told, ∀ h ∈ w.told, g.controllerId ≠ h.controllerId → Apart ttl g h := by
  have moved := history.moved
  have inv := (history.invariant leaseInv_start fun t member inv => inv.step (moved t member) (undisturbed t member)).1
  exact inv.apart

/-! ### Two controllers -/

/-- Every lease lasts for thirty seconds. -/
def thirty : String → PyFloat := fun _ => .fin 30

/-- A call that writes its record at once. -/
theorem wrote_at_once {text : List Char} (nonempty : text ≠ []) (here : w.calls i = some ⟨c, now, .writing [] text⟩) :
    LeaseStep host ttl w (.wrote i) { w.put i (some ⟨c, now, .writing text []⟩) with
      file := some (writeAt (w.file.getD []) 0 text) } := by
  have whole : w.calls i = some ⟨c, now, .writing [] (text ++ [])⟩ := by rw [here, List.append_nil]
  exact .wrote nonempty whole

theorem leaseText_filled : leaseText host ttl c now ≠ [] := by
  simp [leaseText]

/-- The three operations of a call that may write. -/
theorem written_steps (history : History (LeaseStep host ttl) (noCalls clock file) past w)
    (here : w.calls i = some ⟨c, now, .cleared seen⟩) : ∃ w₁ w₂ w', History (LeaseStep host ttl) (noCalls clock file)
      (⟨w₂, .returned i, w'⟩ :: ⟨w₁, .wrote i, w₂⟩ :: ⟨w, .emptied i, w₁⟩ :: past) w' ∧
      w'.told = ⟨c, now, w.clock⟩ :: w.told ∧ w'.clock = w.clock ∧ ∀ j, j ≠ i → w'.calls j = w.calls j := by
  have emptied := history.step (.emptied here)
  have first : (w.put i (some ⟨c, now, .writing [] (leaseText host ttl c now)⟩)).calls i =
      some ⟨c, now, .writing [] (leaseText host ttl c now)⟩ := by
    simp [LeaseWorld.put]
  have wrote := emptied.step (wrote_at_once leaseText_filled first)
  have second : ((w.put i (some ⟨c, now, .writing [] (leaseText host ttl c now)⟩)).put i
      (some ⟨c, now, .writing (leaseText host ttl c now) []⟩)).calls i = some ⟨c, now, .writing (leaseText host ttl c now) []⟩ := by
    simp [LeaseWorld.put]
  have returned := wrote.step (.returned second)
  refine ⟨_, _, _, returned, rfl, rfl, fun j other => ?_⟩
  simp [LeaseWorld.put, Function.update_of_ne other]

theorem leases_apart_alone : ∃ past w, History (LeaseStep sampleHost thirty) (noCalls 0 none) past w ∧
    w.told = [⟨"CONTROLLER-A", 0, 0⟩] ∧
    ∀ g ∈ w.told, ∀ h ∈ w.told, g.controllerId ≠ h.controllerId → Apart thirty g h := by
  have began := (@History.start _ _ (LeaseStep sampleHost thirty) (noCalls 0 none)).step
    (.began (i := 0) "CONTROLLER-A" rfl)
  have looked := began.step (.looked (i := 0) (c := "CONTROLLER-A") rfl)
  obtain ⟨w₁, w₂, w', returned, told, -, -⟩ := written_steps (i := 0) (c := "CONTROLLER-A") looked rfl
  refine ⟨_, w', returned, told, leases_apart returned ?_⟩
  intro t member j label
  simp only [List.mem_cons, List.not_mem_nil, or_false] at member
  rcases member with rfl | rfl | rfl | rfl | rfl
  · cases label
  · cases label
  · cases label
    intro c now seen found
    cases found
    refine ⟨rfl, fun k other writes => ?_, rfl⟩
    obtain ⟨d, now', written, rest, found⟩ := writes
    simp [LeaseWorld.put, noCalls, Function.update_of_ne other] at found
  · cases label
  · cases label

/-- Two controllers look, both find no file, and both are told for the same thirty seconds. -/
theorem two_told : ∃ past w, History (LeaseStep sampleHost thirty) (noCalls 0 none) past w ∧
    ∃ g ∈ w.told, ∃ h ∈ w.told, g.controllerId ≠ h.controllerId ∧ ¬ Apart thirty g h := by
  have first := (@History.start _ _ (LeaseStep sampleHost thirty) (noCalls 0 none)).step
    (.began (i := 0) "CONTROLLER-A" rfl)
  have second := first.step (.began (i := 1) "CONTROLLER-B" rfl)
  have looked := second.step (.looked (i := 0) (c := "CONTROLLER-A") rfl)
  have looked' := looked.step (.looked (i := 1) (c := "CONTROLLER-B") rfl)
  obtain ⟨w₁, w₂, w, returned, told, clock, others⟩ := written_steps (i := 0) (c := "CONTROLLER-A") looked' rfl
  obtain ⟨w₃, w₄, w', returned', told', -, -⟩ := written_steps (i := 1) (c := "CONTROLLER-B") returned (others 1 (by decide))
  rw [told, clock] at told'
  refine ⟨_, w', returned', ⟨"CONTROLLER-B", 0, 0⟩, ?_, ⟨"CONTROLLER-A", 0, 0⟩, ?_, by decide, ?_⟩
  · rw [told']
    exact List.mem_cons_self
  · rw [told']
    exact List.mem_cons_of_mem _ List.mem_cons_self
  · intro apart
    have ahead : PyFloat.fin 0 < .fin (0 + 30) := PyFloat.fin_lt_fin.mpr (by norm_num)
    exact apart ⟨0, le_refl _, ahead, le_refl _, ahead⟩

end ControlPlane.Directive
