import ControlPlane.Directive.Reconciler
import Mathlib.Data.Finset.Card
import Mathlib.Data.Finset.Dedup

/-!
# What the reconciliation vouches for

The groups that are analysed hold the records of the three sources, directive by directive. The
analysis counts where no record makes it raise, and the count is right where no record hides.
-/

namespace ControlPlane.Directive

open ControlPlane.Data

/-! ### Records and directives -/

/-- The directive a record belongs to. -/
def directive? (r : Record) : Option Json.Key :=
  if (Record.field r "directive_id").truthy then (Record.field r "directive_id").key? else none

def asRecord : Option Json → Option Record
  | some (.dict r) => some r
  | _ => none

/-- `is_explicitly_executed` is true of the record. -/
def executed (r : Record) : Bool :=
  match isExplicitlyExecuted r with
  | .ok b => b
  | .error _ => false

/-- The record is classified as mutating. -/
def classified (r : Record) : Bool :=
  match determineMutationType r with
  | .ok type => type = some true
  | .error _ => false

/-- `v` is a known mutating action. -/
def isMutatingAction (v : Json) : Bool :=
  match v.str? with
  | some s => s ∈ knownMutatingActions
  | none => false

/-- The action type of the record, its own or the one in its payload, is a known mutating action. -/
def namesMutating (r : Record) : Bool :=
  isMutatingAction (Record.field r "action_type") ||
    match Record.field r "directive_payload" with
    | .dict payload => isMutatingAction (Record.field payload "action_type")
    | _ => false

/-- The directives of some records. -/
def directivesOf (records : List Record) (p : Record → Bool) : Finset Json.Key :=
  ((records.filter p).filterMap directive?).toFinset

section

variable (host : QueueHost)

/-- The records of the three sources. -/
def allRecords (s : EvidenceSources) : List Record :=
  (lineValues host s.queueFile ++ lineValues host s.consumedFile ++ s.ackFiles.map (ackValue host)).filterMap asRecord

def BelongsTo (r : Record) (id : Json) : Prop := ∃ key, directive? r = some key ∧ id.key? = some key

/-- The reconciliation answers, and whenever it counts, every executed record belongs to a directive it
names, which has no failed record, and the count covers the directives with a known mutating action. -/
def Vouched (s : EvidenceSources) : Prop :=
  ∃ res, reconcileExecutionEvidence host s = .ok res ∧ ∀ n, res.mutatingDirectivesExecuted = some n →
    (∀ r ∈ allRecords host s, isExplicitlyExecuted r = .ok true → ∃ id ∈ res.executedDirectiveIds, BelongsTo r id) ∧
    (∀ id ∈ res.executedDirectiveIds, ∀ r ∈ allRecords host s, BelongsTo r id →
      isTerminallyFailedOrRejected host r = .ok false) ∧
    (directivesOf (allRecords host s) fun r => executed r && namesMutating r).card ≤ n

/-! ### The condition -/

/-- Records of one directive that is executed and can be classified. -/
def Counted (items : List Record) : Prop :=
  anyOf isExplicitlyExecuted items = .ok true ∧ anyOf (isTerminallyFailedOrRejected host) items = .ok false ∧
    ∃ types, mutationTypes items = .ok types ∧ none ∉ types

/-- Records of one directive that the analysis gets past. -/
def Clear (items : List Record) : Prop :=
  (anyOf isExplicitlyExecuted items = .ok false ∧ ∃ b, anyOf (isTerminallyFailedOrRejected host) items = .ok b) ∨
    Counted host items

/-- Records of one directive that contradict each other or cannot be classified. -/
def Ends (items : List Record) : Prop :=
  anyOf isExplicitlyExecuted items = .ok true ∧ (anyOf (isTerminallyFailedOrRejected host) items = .ok true ∨
    anyOf (isTerminallyFailedOrRejected host) items = .ok false ∧ ∃ types, mutationTypes items = .ok types ∧ none ∈ types)

/-- Nothing raises and nothing hides. -/
structure Whole (s : EvidenceSources) (groups : RecordsByDirective) : Prop where
  clear : ∀ e ∈ groups, Clear host e.2.2.all
  comparable : (∀ key ∈ directivesOf (allRecords host s) executed, ∃ t, key = .str t) ∨
    ∀ key ∈ directivesOf (allRecords host s) executed, ∃ x, key = .num x
  named : ∀ r ∈ allRecords host s, isExplicitlyExecuted r = .ok true → ∃ key, directive? r = some key
  hidden : ((directivesOf (allRecords host s) fun r => executed r && namesMutating r) \
      directivesOf (allRecords host s) fun r => executed r && classified r).card ≤
    ((directivesOf (allRecords host s) fun r => executed r && classified r) \
      directivesOf (allRecords host s) fun r => executed r && namesMutating r).card

end

section

variable {host : QueueHost} {s : EvidenceSources} {groups groups' : RecordsByDirective} {items : List Record} {r : Record}
  {key : Json.Key} {source other : EvidenceSource} {values : List (Option Json)} {ids : List Json} {n : Nat} {b : Bool}

/-! ### Reading the sources -/

def Evidence.of (e : Evidence) : EvidenceSource → List Record
  | .queue => e.queue
  | .consumed => e.consumed
  | .ack => e.ack

theorem of_add {e : Evidence} : (e.add r source).of other = if other = source then e.of other ++ [r] else e.of other := by
  cases source <;> cases other <;> rfl

/-- What a directive has so far. -/
def held (groups : RecordsByDirective) (key : Json.Key) : Evidence := ((groups.get? key).map (·.2)).getD {}

/-- The groups after some values, and what is known of each. -/
structure Read (source : EvidenceSource) (groups : RecordsByDirective) (values : List (Option Json))
    (groups' : RecordsByDirective) : Prop where
  evidence : ∀ key other, (held groups' key).of other =
    (held groups key).of other ++ if other = source then (values.filterMap asRecord).filter (directive? · = some key) else []
  keys : ∀ key, key ∈ groups'.keys ↔ key ∈ groups.keys ∨ ∃ r ∈ values.filterMap asRecord, directive? r = some key
  distinct : Dict.Distinct groups → Dict.Distinct groups'
  ids : (∀ e ∈ groups, e.2.1.key? = some e.1) → ∀ e ∈ groups', e.2.1.key? = some e.1

theorem held_set {known : Json} {e : Evidence} {key' : Json.Key} :
    held (groups.set key (known, e)) key' = if key = key' then e else held groups key' := by
  unfold held
  rw [Dict.get?_set]
  split <;> rfl

/-- A record that names no directive. -/
theorem Read.skip (unnamed : directive? r = none) (read : Read source groups values groups') :
    Read source groups (some (.dict r) :: values) groups' where
  evidence key other := by
    rw [read.evidence]
    simp [asRecord, unnamed]
  keys key := by
    rw [read.keys]
    simp [asRecord, unnamed]
  distinct := read.distinct
  ids := read.ids

/-- A record that is added to its directive. -/
theorem Read.add {did : Json} (named : directive? r = some key) (did? : did.key? = some key)
    (read : Read source (groups.set key (did, (held groups key).add r source)) values groups') :
    Read source groups (some (.dict r) :: values) groups' where
  evidence key' other := by
    have records : (some (Json.dict r) :: values).filterMap asRecord = r :: values.filterMap asRecord := rfl
    rw [read.evidence, held_set, records]
    by_cases same : key = key'
    · subst same
      rw [if_pos rfl, of_add]
      by_cases own : other = source
      · simp [own, named]
      · simp [own]
    · have elsewhere : ¬ directive? r = some key' := by
        rw [named]
        exact fun equal => same (Option.some.inj equal)
      rw [if_neg same]
      simp [elsewhere]
  keys key' := by
    have records : (some (Json.dict r) :: values).filterMap asRecord = r :: values.filterMap asRecord := rfl
    rw [read.keys, records, Dict.keys_set]
    by_cases known : key ∈ groups.keys
    · rw [if_pos known]
      constructor
      · rintro (old | ⟨r', member, named'⟩)
        · exact .inl old
        · exact .inr ⟨r', List.mem_cons_of_mem _ member, named'⟩
      · rintro (old | ⟨r', member, named'⟩)
        · exact .inl old
        · rcases List.mem_cons.mp member with rfl | member
          · obtain rfl := Option.some.inj (named.symm.trans named')
            exact .inl known
          · exact .inr ⟨r', member, named'⟩
    · rw [if_neg known, List.mem_append, List.mem_singleton]
      constructor
      · rintro ((old | rfl) | ⟨r', member, named'⟩)
        · exact .inl old
        · exact .inr ⟨r, List.mem_cons_self, named⟩
        · exact .inr ⟨r', List.mem_cons_of_mem _ member, named'⟩
      · rintro (old | ⟨r', member, named'⟩)
        · exact .inl (.inl old)
        · rcases List.mem_cons.mp member with rfl | member
          · exact .inl (.inr (Option.some.inj (named'.symm.trans named)))
          · exact .inr ⟨r', member, named'⟩
  distinct distinct := read.distinct distinct.set
  ids start := by
    refine read.ids fun e member => ?_
    rcases Dict.mem_set member with rfl | old
    · exact did?
    · exact start e old

/-- The groups hold the records of the sources, and no directive comes twice. -/
structure Grouped (host : QueueHost) (s : EvidenceSources) (groups : RecordsByDirective) : Prop where
  items : ∀ e ∈ groups, e.2.2.all = (allRecords host s).filter (directive? · = some e.1)
  keys : ∀ key, key ∈ groups.keys ↔ ∃ r ∈ allRecords host s, directive? r = some key
  distinct : Dict.Distinct groups
  ids : ∀ e ∈ groups, e.2.1.key? = some e.1

theorem executed_ok (ok : isExplicitlyExecuted r = .ok b) : executed r = b := by
  rw [executed, ok]

theorem executed_iff : executed r = true ↔ isExplicitlyExecuted r = .ok true := by
  unfold executed
  cases isExplicitlyExecuted r with
  | ok b => simp
  | error fault => simp

theorem anyOf_false {p : Record → Except Fault Bool} : anyOf p items = .ok false ↔ ∀ r ∈ items, p r = .ok false := by
  induction items with
  | nil => simp [anyOf]
  | cons r items ih =>
    unfold anyOf
    cases value : p r with
    | error fault => simp [value]
    | ok b =>
      cases b with
      | true => simp [value]
      | false => simp [value, ih]

theorem anyOf_true {p : Record → Except Fault Bool} (any : anyOf p items = .ok true) : ∃ r ∈ items, p r = .ok true := by
  induction items with
  | nil => simp [anyOf] at any
  | cons r items ih =>
    unfold anyOf at any
    split at any
    · cases any
    · rename_i value
      exact ⟨r, List.mem_cons_self, value⟩
    · obtain ⟨r', member, value⟩ := ih any
      exact ⟨r', List.mem_cons_of_mem _ member, value⟩

/-- What the types of the executed records say. -/
theorem mutationTypes_ok {types : List (Option Bool)} (ok : mutationTypes items = .ok types) :
    (types.any fun type => type = some true) = items.any fun r => executed r && classified r := by
  induction items generalizing types with
  | nil =>
    obtain rfl := Except.ok.inj ok
    rfl
  | cons r items ih =>
    unfold mutationTypes at ok
    split at ok
    · cases ok
    · rename_i value
      rw [List.any_cons, executed_ok value, ih ok]
      rfl
    · rename_i value
      obtain ⟨type, typed, ok⟩ := bind_ok.mp ok
      obtain ⟨types', later, ok⟩ := bind_ok.mp ok
      obtain rfl := Except.ok.inj ok
      rw [List.any_cons, List.any_cons, executed_ok value, ih later, classified, typed]
      simp

theorem none_any {types : List (Option Bool)} : types.any (·.isNone) = true ↔ none ∈ types := by
  rw [List.any_eq_true]
  constructor
  · rintro ⟨type, member, missing⟩
    rw [Option.isNone_iff_eq_none] at missing
    exact missing ▸ member
  · intro member
    exact ⟨none, member, rfl⟩

/-- A directive that the analysis gets past: nothing was executed, or it is counted. -/
theorem judge_clear (clear : Clear host items) :
    judge host items = .ok .idle ∧ (∀ r ∈ items, executed r = false) ∨
    judge host items = .ok (.executed (items.any fun r => executed r && classified r)) ∧ (∃ r ∈ items, executed r = true) ∧
      ∀ r ∈ items, isTerminallyFailedOrRejected host r = .ok false := by
  rcases clear with ⟨idle, b, failed⟩ | ⟨some, whole, types, typed, known⟩
  · left
    refine ⟨?_, fun r member => executed_ok (anyOf_false.mp idle r member)⟩
    simp [judge, idle, failed, bind, Except.bind, pure, Except.pure]
  · right
    refine ⟨?_, ?_, anyOf_false.mp whole⟩
    · have noneAny : types.any (·.isNone) = false := by
        rw [Bool.eq_false_iff]
        exact fun any => known (none_any.mp any)
      rw [← mutationTypes_ok typed]
      simp [judge, some, whole, typed, noneAny, bind, Except.bind, pure, Except.pure]
    · obtain ⟨r, member, value⟩ := anyOf_true some
      exact ⟨r, member, executed_iff.mpr value⟩

/-- The directives that were executed. -/
def executedIds (groups : RecordsByDirective) : List Json :=
  (groups.filter fun e => e.2.2.all.any executed).map (·.2.1)

/-- The directives that are counted as mutating. -/
def mutatingGroups (groups : RecordsByDirective) : RecordsByDirective :=
  groups.filter fun e => e.2.2.all.any fun r => executed r && classified r

theorem sortedIds_iff : (∃ ids', sortedIds ids = .ok ids') ↔
    (∀ id ∈ ids, id.str?.isSome = true) ∨ ∀ id ∈ ids, id.number?.isSome = true := by
  unfold sortedIds
  by_cases texts : ids.all (·.str?.isSome) = true
  · rw [if_pos texts]
    simp only [Except.ok.injEq, exists_eq', true_iff]
    exact .inl (List.all_eq_true.mp texts)
  · rw [if_neg texts]
    by_cases numbers : ids.all (·.number?.isSome) = true
    · rw [if_pos numbers]
      simp only [Except.ok.injEq, exists_eq', true_iff]
      exact .inr (List.all_eq_true.mp numbers)
    · rw [if_neg numbers]
      simp only [reduceCtorEq, exists_false, false_iff, not_or]
      exact ⟨fun all => texts (List.all_eq_true.mpr all), fun all => numbers (List.all_eq_true.mpr all)⟩

/-! ### The count -/

theorem mem_directivesOf {records : List Record} {p : Record → Bool} :
    key ∈ directivesOf records p ↔ ∃ r ∈ records, p r = true ∧ directive? r = some key := by
  simp [directivesOf, and_assoc]

/-- A group with a record of some kind stands for a directive with such a record. -/
theorem Grouped.any (grouped : Grouped host s groups) {p : Record → Bool} {e : Json.Key × (Json × Evidence)} (member : e ∈ groups) :
    e.2.2.all.any p = true ↔ e.1 ∈ directivesOf (allRecords host s) p := by
  rw [List.any_eq_true, grouped.items e member, mem_directivesOf]
  simp only [List.mem_filter, decide_eq_true_eq]
  constructor
  · rintro ⟨r, ⟨here, named⟩, holds⟩
    exact ⟨r, here, holds, named⟩
  · rintro ⟨r, here, holds, named⟩
    exact ⟨r, ⟨here, named⟩, holds⟩

theorem Grouped.entry (grouped : Grouped host s groups) {p : Record → Bool} (member : key ∈ directivesOf (allRecords host s) p) :
    ∃ e ∈ groups, e.1 = key := by
  obtain ⟨r, here, -, named⟩ := mem_directivesOf.mp member
  have known := (grouped.keys key).mpr ⟨r, here, named⟩
  obtain ⟨e, inside, same⟩ := List.mem_map.mp known
  exact ⟨e, inside, same⟩

/-- One group a directive. -/
theorem Grouped.count (grouped : Grouped host s groups) : (mutatingGroups groups).length =
    (directivesOf (allRecords host s) fun r => executed r && classified r).card := by
  have nodup : ((mutatingGroups groups).map (·.1)).Nodup := by
    have sublist : ((mutatingGroups groups).map (·.1)).Sublist (Dict.keys groups) :=
      (List.filter_sublist (l := groups)).map (·.1)
    exact sublist.nodup grouped.distinct
  have same : ((mutatingGroups groups).map (·.1)).toFinset =
      directivesOf (allRecords host s) fun r => executed r && classified r := by
    ext key
    rw [List.mem_toFinset, List.mem_map]
    constructor
    · rintro ⟨e, member, rfl⟩
      obtain ⟨inside, any⟩ := List.mem_filter.mp member
      exact (grouped.any inside).mp any
    · intro member
      obtain ⟨e, inside, rfl⟩ := grouped.entry member
      exact ⟨e, List.mem_filter.mpr ⟨inside, (grouped.any inside).mpr member⟩, rfl⟩
  rw [← same, List.toFinset_card_of_nodup nodup, List.length_map]

theorem Grouped.mem_executedIds (grouped : Grouped host s groups) {id : Json} : id ∈ executedIds groups ↔
    ∃ e ∈ groups, e.2.1 = id ∧ e.1 ∈ directivesOf (allRecords host s) executed := by
  simp only [executedIds, List.mem_map, List.mem_filter]
  constructor
  · rintro ⟨e, ⟨inside, any⟩, rfl⟩
    exact ⟨e, inside, rfl, (grouped.any inside).mp any⟩
  · rintro ⟨e, inside, rfl, member⟩
    exact ⟨e, ⟨inside, (grouped.any inside).mpr member⟩, rfl⟩

theorem key_str {v : Json} (keyed : v.key? = some key) : v.str?.isSome = true ↔ ∃ t, key = .str t := by
  cases v <;> simp_all [Json.key?, Json.str?, eq_comm]

theorem key_num {v : Json} (keyed : v.key? = some key) : v.number?.isSome = true ↔ ∃ x, key = .num x := by
  cases v <;> simp_all [Json.key?, Json.number?, eq_comm]

/-- The ids can be sorted where all of them are texts or all are numbers. -/
theorem Grouped.sorted (grouped : Grouped host s groups) : (∃ ids', sortedIds (executedIds groups) = .ok ids') ↔
    (∀ key ∈ directivesOf (allRecords host s) executed, ∃ t, key = .str t) ∨
      ∀ key ∈ directivesOf (allRecords host s) executed, ∃ x, key = .num x := by
  have each : ∀ {p : Json → Prop} {q : Json.Key → Prop}, (∀ {v key}, v.key? = some key → (p v ↔ q key)) →
      ((∀ id ∈ executedIds groups, p id) ↔ ∀ key ∈ directivesOf (allRecords host s) executed, q key) := by
    intro p q agree
    constructor
    · intro all key member
      obtain ⟨e, inside, rfl⟩ := grouped.entry member
      exact (agree (grouped.ids e inside)).mp (all _ (grouped.mem_executedIds.mpr ⟨e, inside, rfl, member⟩))
    · intro all id member
      obtain ⟨e, inside, rfl, named⟩ := grouped.mem_executedIds.mp member
      exact (agree (grouped.ids e inside)).mpr (all _ named)
  rw [sortedIds_iff, each key_str, each key_num]

/-- Every executed record belongs to a directive that is named, where every such record has one. -/
theorem Grouped.named (grouped : Grouped host s groups) :
    (∀ r ∈ allRecords host s, isExplicitlyExecuted r = .ok true → ∃ id ∈ executedIds groups, BelongsTo r id) ↔
      ∀ r ∈ allRecords host s, isExplicitlyExecuted r = .ok true → ∃ key, directive? r = some key := by
  constructor
  · intro all r member value
    obtain ⟨id, -, key, named, -⟩ := all r member value
    exact ⟨key, named⟩
  · intro all r member value
    obtain ⟨key, named⟩ := all r member value
    have inside : key ∈ directivesOf (allRecords host s) executed :=
      mem_directivesOf.mpr ⟨r, member, executed_iff.mpr value, named⟩
    obtain ⟨e, entry, rfl⟩ := grouped.entry inside
    exact ⟨e.2.1, grouped.mem_executedIds.mpr ⟨e, entry, rfl, inside⟩, e.1, named, grouped.ids e entry⟩

/-- No directive that is counted has a failed record. -/
theorem Grouped.unfailed (grouped : Grouped host s groups) (clear : ∀ e ∈ groups, Clear host e.2.2.all) :
    ∀ id ∈ executedIds groups, ∀ r ∈ allRecords host s, BelongsTo r id → isTerminallyFailedOrRejected host r = .ok false := by
  intro id member r here belongs
  obtain ⟨e, inside, rfl, named⟩ := grouped.mem_executedIds.mp member
  obtain ⟨key, named', keyed⟩ := belongs
  obtain rfl := Option.some.inj ((grouped.ids e inside).symm.trans keyed)
  have some := (grouped.any inside).mpr named
  rcases judge_clear (clear e inside) with ⟨-, none⟩ | ⟨-, -, unfailed⟩
  · rw [List.any_eq_true] at some
    obtain ⟨r', inside', value⟩ := some
    rw [none r' inside'] at value
    cases value
  · refine unfailed r ?_
    rw [grouped.items e inside]
    exact List.mem_filter.mpr ⟨here, decide_eq_true named'⟩

end

end ControlPlane.Directive
