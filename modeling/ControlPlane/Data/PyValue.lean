import ControlPlane.Data.Json.Arranged

/-!
# Python values that `json.dumps` takes

Dictionaries with keys of any kind that JSON accepts. The keys are sorted as they are and
written as texts, and come back as texts; when that leaves the sorted text as it is.
-/

namespace ControlPlane.Data

inductive PyKey where
  | none
  | bool (b : Bool)
  | int (i : Int)
  | float (x : PyFloat)
  | str (s : String)
  deriving DecidableEq

inductive PyValue where
  | none
  | bool (b : Bool)
  | int (i : Int)
  | float (x : PyFloat)
  | str (s : String)
  | list (xs : List PyValue)
  | tuple (xs : List PyValue)
  | dict (entries : List (PyKey × PyValue))

namespace PyKey

/-- The text that `json.dumps` writes for a key. -/
def text (repr : ℚ → List Char) : PyKey → String
  | none => "null"
  | bool true => "true"
  | bool false => "false"
  | int i => String.ofList (Json.intText i)
  | float x => String.ofList (Json.floatText repr x)
  | str s => s

def str? : PyKey → Option String
  | str s => some s
  | _ => Option.none

/-- The number a key is compared as. -/
def number? : PyKey → Option PyFloat
  | bool b => some (.fin (if b then 1 else 0))
  | int i => some (.fin i)
  | float x => some x
  | _ => Option.none

/-- Not `b < a`, for keys of one kind. -/
def before (a b : PyKey) : Bool :=
  match a.str?, b.str? with
  | some s, some t => !decide (t < s)
  | _, _ =>
    match a.number?, b.number? with
    | some x, some y => !decide (y < x)
    | _, _ => true

end PyKey

/-- What `list.sort` makes of items where a NaN is among the keys: it promises no order. -/
structure NanOrder where
  sort : List (PyKey × Json) → List (PyKey × Json)
  perm : ∀ items, (sort items).Perm items

/-- `sorted(dct.items())`; keys that cannot be compared raise. -/
def sortItems (order : NanOrder) (items : List (PyKey × Json)) : Option (List (PyKey × Json)) :=
  if items.length ≤ 1 then some items
  else if items.all fun e => e.1.str?.isSome then some (items.insertionSort fun a b => a.1.before b.1 = true)
  else if items.all fun e => e.1.number?.isSome then
    if items.any fun e => e.1.number? = some .nan then some (order.sort items)
    else some (items.insertionSort fun a b => a.1.before b.1 = true)
  else none

namespace PyValue

section

variable (repr : ℚ → List Char)

def coerced (e : PyKey × Json) : String × Json := (e.1.text repr, e.2)

mutual

/-- The value as it is written. -/
def toJson : PyValue → Json
  | none => .null
  | bool b => .bool b
  | int i => .int i
  | float x => .float x
  | str s => .str s
  | list xs => .list (toJsonAll xs)
  | tuple xs => .list (toJsonAll xs)
  | dict entries => .dict (toJsonEntries entries)

def toJsonAll : List PyValue → List Json
  | [] => []
  | v :: rest => toJson v :: toJsonAll rest

def toJsonEntries : List (PyKey × PyValue) → List (String × Json)
  | [] => []
  | (k, v) :: rest => (k.text repr, toJson v) :: toJsonEntries rest

end

variable (order : NanOrder)

mutual

/-- The value as it is written with `sort_keys`. -/
def sorted : PyValue → Option Json
  | none => some .null
  | bool b => some (.bool b)
  | int i => some (.int i)
  | float x => some (.float x)
  | str s => some (.str s)
  | list xs => (sortedAll xs).map .list
  | tuple xs => (sortedAll xs).map .list
  | dict entries => ((sortedEntries entries).bind (sortItems order)).map fun items => .dict (items.map (coerced repr))

def sortedAll : List PyValue → Option (List Json)
  | [] => some []
  | v :: rest => (sorted v).bind fun j => (sortedAll rest).map fun js => j :: js

def sortedEntries : List (PyKey × PyValue) → Option (List (PyKey × Json))
  | [] => some []
  | (k, v) :: rest => (sorted v).bind fun j => (sortedEntries rest).map fun js => (k, j) :: js

end

/-- `json.dumps(v, sort_keys=True)` -/
def sortedDumps (v : PyValue) : Option String := (v.sorted repr order).map (Json.dumps repr {})

mutual

/-- In every dictionary, the keys in their own order have texts that grow. -/
def InOrder : PyValue → Prop
  | list xs => AllInOrder xs
  | tuple xs => AllInOrder xs
  | dict entries => (∀ items, (sortedEntries repr order entries).bind (sortItems order) = some items →
      Json.Growing (items.map (coerced repr))) ∧ EntriesInOrder entries
  | _ => True

def AllInOrder : List PyValue → Prop
  | [] => True
  | v :: rest => InOrder v ∧ AllInOrder rest

def EntriesInOrder : List (PyKey × PyValue) → Prop
  | [] => True
  | (_, v) :: rest => InOrder v ∧ EntriesInOrder rest

end

end

section

variable {repr : ℚ → List Char} {order : NanOrder}

theorem sortItems_perm {items out : List (PyKey × Json)} (sorts : sortItems order items = some out) : out.Perm items := by
  unfold sortItems at sorts
  split_ifs at sorts
  · rw [← Option.some.inj sorts]
  · rw [← Option.some.inj sorts]
    exact List.perm_insertionSort _ items
  · rw [← Option.some.inj sorts]
    exact order.perm items
  · rw [← Option.some.inj sorts]
    exact List.perm_insertionSort _ items

/-- Entries under the same distinct keys that are the same in any order are the same. -/
theorem eq_of_perm_keys {α : Type} {es fs : List (String × α)} (perm : es.Perm fs) (keys : es.map (·.1) = fs.map (·.1))
    (distinct : (es.map (·.1)).Nodup) : es = fs := by
  induction es generalizing fs with
  | nil => exact perm.nil_eq
  | cons e es ih =>
    cases fs with
    | nil => cases keys
    | cons f fs =>
      obtain ⟨key, later⟩ := List.cons.inj keys
      obtain ⟨fresh, distinct'⟩ := List.nodup_cons.mp distinct
      have same : e = f := by
        rcases List.mem_cons.mp (perm.subset List.mem_cons_self) with same | member
        · exact same
        · have known : e.1 ∈ fs.map (·.1) := List.mem_map_of_mem (f := Prod.fst) member
          exact absurd (later ▸ known) fresh
      subst same
      rw [ih perm.cons_inv later distinct']

theorem keys_sortedEntries {entries : List (PyKey × PyValue)} {items : List (PyKey × Json)}
    (sorts : sortedEntries repr order entries = some items) :
    (items.map (coerced repr)).map (·.1) = (toJsonEntries repr entries).map (·.1) := by
  induction entries generalizing items with
  | nil =>
    rw [← Option.some.inj sorts]
    rfl
  | cons e rest ih =>
    obtain ⟨k, v⟩ := e
    rw [sortedEntries] at sorts
    obtain ⟨j, -, sorts⟩ := Option.bind_eq_some_iff.mp sorts
    obtain ⟨js, later, rfl⟩ := Option.map_eq_some_iff.mp sorts
    rw [toJsonEntries, List.map_cons, List.map_cons, List.map_cons, ih later]
    rfl

/-- One dictionary: what was sorted as keys and what is sorted as texts. -/
theorem entries_eq_iff {items out read : List (String × Json)} (perm : out.Perm items) (keys : items.map (·.1) = read.map (·.1)) :
    out = Json.sortEntries (Json.arrangedEntries (Dict.ofList read)) ↔ Json.Growing out ∧ items = Json.arrangedEntries read := by
  have arranged (es : List (String × Json)) : (Json.arrangedEntries es).map (·.1) = es.map (·.1) := Json.keys_arrangedEntries es
  constructor
  · intro same
    have distinct : ((Json.arrangedEntries (Dict.ofList read)).map (·.1)).Nodup := by
      rw [arranged]
      exact Dict.distinct_ofList read
    have growing : Json.Growing out := same ▸ Json.growing_sortEntries distinct
    have once : (items.map (·.1)).Nodup := (perm.map _).nodup_iff.mp growing.distinct
    have apart : Dict.Distinct read := show (read.map (·.1)).Nodup from keys ▸ once
    have kept : Dict.ofList read = read := Dict.ofList_of_distinct apart
    rw [kept] at same
    have alike : items.Perm (Json.arrangedEntries read) :=
      perm.symm.trans (same ▸ Json.sortEntries_perm (Json.arrangedEntries read))
    exact ⟨growing, eq_of_perm_keys alike (by rw [keys, arranged]) once⟩
  · rintro ⟨growing, same⟩
    have once : (items.map (·.1)).Nodup := (perm.map _).nodup_iff.mp growing.distinct
    have apart : Dict.Distinct read := show (read.map (·.1)).Nodup from keys ▸ once
    have kept : Dict.ofList read = read := Dict.ofList_of_distinct apart
    rw [kept, ← same]
    exact growing.sorted perm

mutual

/-- What comes back is written as it was exactly if the keys are in order. -/
theorem sorted_eq_iff : ∀ (v : PyValue) (j : Json), v.sorted repr order = some j →
    (j = Json.arranged (Json.reread (v.toJson repr)) ↔ v.InOrder repr order)
  | .none, j, sorts => by
    obtain rfl := Option.some.inj sorts
    exact ⟨fun _ => trivial, fun _ => rfl⟩
  | .bool b, j, sorts => by
    obtain rfl := Option.some.inj sorts
    exact ⟨fun _ => trivial, fun _ => rfl⟩
  | .int i, j, sorts => by
    obtain rfl := Option.some.inj sorts
    exact ⟨fun _ => trivial, fun _ => rfl⟩
  | .float x, j, sorts => by
    obtain rfl := Option.some.inj sorts
    exact ⟨fun _ => trivial, fun _ => rfl⟩
  | .str s, j, sorts => by
    obtain rfl := Option.some.inj sorts
    exact ⟨fun _ => trivial, fun _ => rfl⟩
  | .list xs, j, sorts => by
    obtain ⟨js, all, rfl⟩ := Option.map_eq_some_iff.mp sorts
    rw [toJson, Json.reread, Json.arranged, Json.list.injEq, InOrder]
    exact sortedAll_eq_iff xs js all
  | .tuple xs, j, sorts => by
    obtain ⟨js, all, rfl⟩ := Option.map_eq_some_iff.mp sorts
    rw [toJson, Json.reread, Json.arranged, Json.list.injEq, InOrder]
    exact sortedAll_eq_iff xs js all
  | .dict entries, j, sorts => by
    obtain ⟨out, both, rfl⟩ := Option.map_eq_some_iff.mp sorts
    obtain ⟨items, all, ordered⟩ := Option.bind_eq_some_iff.mp both
    have keys : (items.map (coerced repr)).map (·.1) = (Json.rereadEntries (toJsonEntries repr entries)).map (·.1) :=
      (keys_sortedEntries all).trans (Json.keys_reread (toJsonEntries repr entries)).symm
    have growing : Json.Growing (out.map (coerced repr)) ↔
        ∀ items, (sortedEntries repr order entries).bind (sortItems order) = some items → Json.Growing (items.map (coerced repr)) := by
      rw [both]
      simp
    rw [toJson, Json.reread, Json.arranged, Json.dict.injEq, InOrder, entries_eq_iff ((sortItems_perm ordered).map _) keys,
      sortedEntries_eq_iff entries items all, growing]

theorem sortedAll_eq_iff : ∀ (vs : List PyValue) (js : List Json), sortedAll repr order vs = some js →
    (js = Json.arrangedAll (Json.rereadAll (toJsonAll repr vs)) ↔ AllInOrder repr order vs)
  | [], js, sorts => by
    obtain rfl := Option.some.inj sorts
    exact ⟨fun _ => trivial, fun _ => rfl⟩
  | v :: rest, js, sorts => by
    rw [sortedAll] at sorts
    obtain ⟨j, first, sorts⟩ := Option.bind_eq_some_iff.mp sorts
    obtain ⟨js, later, rfl⟩ := Option.map_eq_some_iff.mp sorts
    rw [toJsonAll, Json.rereadAll, Json.arrangedAll, List.cons.injEq, sorted_eq_iff v j first, sortedAll_eq_iff rest js later,
      AllInOrder]

theorem sortedEntries_eq_iff : ∀ (entries : List (PyKey × PyValue)) (items : List (PyKey × Json)),
    sortedEntries repr order entries = some items →
    (items.map (coerced repr) = Json.arrangedEntries (Json.rereadEntries (toJsonEntries repr entries)) ↔
      EntriesInOrder repr order entries)
  | [], items, sorts => by
    obtain rfl := Option.some.inj sorts
    exact ⟨fun _ => trivial, fun _ => rfl⟩
  | (k, v) :: rest, items, sorts => by
    rw [sortedEntries] at sorts
    obtain ⟨j, first, sorts⟩ := Option.bind_eq_some_iff.mp sorts
    obtain ⟨js, later, rfl⟩ := Option.map_eq_some_iff.mp sorts
    rw [toJsonEntries, Json.rereadEntries, Json.arrangedEntries, List.map_cons, List.cons.injEq, sortedEntries_eq_iff rest js later,
      EntriesInOrder, ← sorted_eq_iff v j first]
    simp [coerced]

end

end

/-- The sorted text of what comes back is the sorted text of what was written exactly if the keys are in order. -/
theorem sortedDumps_eq_iff {floats : Json.Floats} {order : NanOrder} {v : PyValue} {written : String}
    (sorts : v.sortedDumps floats.repr order = some written) :
    Json.dumps floats.repr { sortKeys := true } (Json.reread (v.toJson floats.repr)) = written ↔ v.InOrder floats.repr order := by
  obtain ⟨j, sorted, rfl⟩ := Option.map_eq_some_iff.mp sorts
  have arranged : Json.dumps floats.repr { sortKeys := true } (Json.reread (v.toJson floats.repr)) =
      Json.dumps floats.repr {} (Json.arranged (Json.reread (v.toJson floats.repr))) := by
    unfold Json.dumps
    rw [← Json.text_sorted floats.repr {}]
  rw [arranged, ← sorted_eq_iff v j sorted]
  constructor
  · intro same
    exact (Json.dumps_inj Json.spaced_default same).symm
  · intro same
    rw [same]

end PyValue

end ControlPlane.Data
