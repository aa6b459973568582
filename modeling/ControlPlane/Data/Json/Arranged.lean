import ControlPlane.Data.Json.Grammar
import Mathlib.Data.List.Sort
import Mathlib.Data.String.Basic

/-!
# Sorted keys

What is written with `sort_keys` is the value whose entries are in the order of their keys, and
the text of a value that is not sorted determines the value.
-/

namespace ControlPlane.Data.Json

/-- Entries in the order of their keys. -/
def byKey {α : Type} (a b : String × α) : Prop := ¬ b.1 < a.1

instance {α : Type} : DecidableRel (@byKey α) := fun a b => inferInstanceAs (Decidable (¬ b.1 < a.1))

def sortEntries {α : Type} (es : List (String × α)) : List (String × α) := es.insertionSort byKey

mutual

/-- The value with its entries in order, at every depth. -/
def arranged : Json → Json
  | .list xs => .list (arrangedAll xs)
  | .dict entries => .dict (sortEntries (arrangedEntries entries))
  | v => v

def arrangedAll : List Json → List Json
  | [] => []
  | v :: rest => arranged v :: arrangedAll rest

def arrangedEntries : List (String × Json) → List (String × Json)
  | [] => []
  | (k, v) :: rest => (k, arranged v) :: arrangedEntries rest

end

theorem keys_arrangedEntries (es : List (String × Json)) : Dict.keys (arrangedEntries es) = Dict.keys es := by
  induction es with
  | nil => rfl
  | cons e rest ih =>
    obtain ⟨k, v⟩ := e
    rw [arrangedEntries, Dict.keys_cons, Dict.keys_cons, ih]

section

variable {α : Type} {es fs : List (String × α)}

theorem byKey_total (a b : String × α) : byKey a b ∨ byKey b a := by
  unfold byKey
  rw [not_lt, not_lt]
  exact le_total a.1 b.1

theorem byKey_trans {a b c : String × α} (first : byKey a b) (second : byKey b c) : byKey a c := by
  unfold byKey at first second ⊢
  rw [not_lt] at first second ⊢
  exact first.trans second

instance : Std.Total (@byKey α) := ⟨byKey_total⟩
instance : IsTrans (String × α) byKey := ⟨fun _ _ _ => byKey_trans⟩

theorem sortEntries_perm (es : List (String × α)) : (sortEntries es).Perm es := List.perm_insertionSort byKey es

theorem sortEntries_ordered (es : List (String × α)) : (sortEntries es).Pairwise byKey := List.pairwise_insertionSort byKey es

/-- Keys that grow. -/
def Growing (es : List (String × α)) : Prop := es.Pairwise fun a b => a.1 < b.1

theorem Growing.distinct (growing : Growing es) : (es.map (·.1)).Nodup := by
  rw [List.Nodup, List.pairwise_map]
  exact growing.imp fun lt => ne_of_lt lt

/-- Distinct keys in order grow. -/
theorem growing_sortEntries (distinct : (es.map (·.1)).Nodup) : Growing (sortEntries es) := by
  have sorted : ((sortEntries es).map (·.1)).Nodup := ((sortEntries_perm es).map _).nodup_iff.mpr distinct
  rw [List.Nodup, List.pairwise_map] at sorted
  refine (sortEntries_ordered es).imp₂ (fun a b ordered apart => ?_) sorted
  exact lt_of_le_of_ne (not_lt.mp ordered) apart

/-- Entries that grow are the only ones in order. -/
theorem Growing.unique (growing : Growing es) (growing' : Growing fs) (perm : es.Perm fs) : es = fs :=
  perm.eq_of_pairwise (fun _ _ _ _ lt gt => absurd lt (lt_asymm gt)) growing growing'

theorem Growing.sorted (growing : Growing es) (perm : es.Perm fs) : es = sortEntries fs := by
  have distinct : (fs.map (·.1)).Nodup := (perm.map _).nodup_iff.mp growing.distinct
  exact growing.unique (growing_sortEntries distinct) (perm.trans (sortEntries_perm fs).symm)

theorem insertEntry_eq (e : String × List Char) (es : List (String × List Char)) : insertEntry e es = es.orderedInsert byKey e := by
  induction es with
  | nil => rfl
  | cons f rest ih =>
    rw [insertEntry, List.orderedInsert_cons, ih]
    by_cases before : f.1 < e.1
    · have behind : ¬ byKey e f := not_not.mpr before
      rw [if_pos before, if_neg behind]
    · have first : byKey e f := before
      rw [if_neg before, if_pos first]

theorem foldr_insertEntry (es : List (String × List Char)) : es.foldr insertEntry [] = sortEntries es := by
  induction es with
  | nil => rfl
  | cons e rest ih =>
    rw [List.foldr_cons, ih, insertEntry_eq]
    rfl

end

section

variable (repr : ℚ → List Char) (layout : Layout)

theorem entryTexts_map (es : List (String × Json)) : entryTexts repr layout es = es.map fun e => (e.1, text repr layout e.2) := by
  induction es with
  | nil => rfl
  | cons e rest ih =>
    obtain ⟨k, v⟩ := e
    rw [entryTexts, ih, List.map_cons]

mutual

/-- `sort_keys=True` writes the entries in order. -/
theorem text_sorted : ∀ v : Json, text repr { layout with sortKeys := true } v = text repr { layout with sortKeys := false } (arranged v)
  | .null | .bool true | .bool false | .int _ | .float _ | .str _ => rfl
  | .list xs => by
    rw [arranged, text, text, texts_sorted xs]
  | .dict entries => by
    rw [arranged, text, text, entryTexts_sorted entries, entryTexts_map _ _ (sortEntries _)]
    simp only [arrange, if_true, Bool.false_eq_true, if_false, foldr_insertEntry]
    rw [entryTexts_map]
    have moved := List.map_insertionSort byKey byKey
      (fun e : String × Json => (e.1, text repr { layout with sortKeys := false } e.2)) (arrangedEntries entries)
      fun a _ b _ => Iff.rfl
    unfold sortEntries
    rw [← moved]

theorem texts_sorted : ∀ vs : List Json,
    texts repr { layout with sortKeys := true } vs = texts repr { layout with sortKeys := false } (arrangedAll vs)
  | [] => rfl
  | v :: rest => by rw [arrangedAll, texts, texts, text_sorted v, texts_sorted rest]

theorem entryTexts_sorted : ∀ es : List (String × Json),
    entryTexts repr { layout with sortKeys := true } es = entryTexts repr { layout with sortKeys := false } (arrangedEntries es)
  | [] => rfl
  | (k, v) :: rest => by rw [arrangedEntries, entryTexts, entryTexts, text_sorted v, entryTexts_sorted rest]

end

end

/-! ### The text determines the value -/

section

variable {floats : Floats} {layout : Layout}

theorem quote_inj {s s' : String} {rest rest' : List Char} (same : quote s ++ rest = quote s' ++ rest') : s = s' ∧ rest = rest' := by
  rw [quote_append, quote_append] at same
  have tails := (List.cons.inj same).2
  have enough : s.toList.length + 1 ≤ s.toList.length + s'.toList.length + 1 := by omega
  have enough' : s'.toList.length + 1 ≤ s.toList.length + s'.toList.length + 1 := by omega
  have first : stringBody _ (s.toList.flatMap escapeChar ++ '"' :: rest) = _ := stringBody_escaped enough
  rw [tails, stringBody_escaped enough'] at first
  obtain ⟨body, behind⟩ := Prod.mk.inj (Option.some.inj first)
  exact ⟨(String.toList_inj.mp body).symm, behind.symm⟩

/-- What stands behind a value is what is left of it. -/
theorem behind_text (spaced : Spaced layout) {v v' : Json} {rest rest' : List Char} (ended : Ended rest) (ended' : Ended rest')
    (same : text floats.repr layout v ++ rest = text floats.repr layout v' ++ rest') : reread v = reread v' ∧ rest = rest' := by
  have reading (n : Nat) : ReadsValue floats layout n := (reads spaced n).1
  have first := reading (2 * (text floats.repr layout v ++ text floats.repr layout v').length + 1) v rest
    (by rw [List.length_append]; omega) ended
  have second := reading (2 * (text floats.repr layout v ++ text floats.repr layout v').length + 1) v' rest'
    (by rw [List.length_append]; omega) ended'
  rw [same, second] at first
  obtain ⟨value, behind⟩ := Prod.mk.inj (Option.some.inj first)
  exact ⟨value.symm, behind.symm⟩

theorem reread_atomic {v : Json} (plain : Atomic v) : reread v = v := by
  cases v <;> first | rfl | cases plain

/-- Where the value is an atom, so is the other. -/
theorem atomic_inj (spaced : Spaced layout) {v v' : Json} (plain : Atomic v) {rest rest' : List Char} (ended : Ended rest)
    (ended' : Ended rest') (same : text floats.repr layout v ++ rest = text floats.repr layout v' ++ rest') : v = v' := by
  obtain ⟨again, -⟩ := behind_text spaced ended ended' same
  rw [reread_atomic plain] at again
  cases v' with
  | list xs =>
    rw [reread] at again
    subst again
    cases plain
  | dict entries =>
    rw [reread] at again
    subst again
    cases plain
  | _ => exact again

/-- What stands behind the first of several parts. -/
def behindFirst (separator : List Char) (ts : List (List Char)) (close : List Char) : List Char :=
  if ts = [] then close else separator ++ (separate separator ts ++ close)

theorem separate_first {separator t close : List Char} {ts : List (List Char)} :
    separate separator (t :: ts) ++ close = t ++ behindFirst separator ts close := by
  cases ts with
  | nil => rfl
  | cons u us => simp [behindFirst, separate_cons]

theorem ended_behindFirst (spaced : Spaced layout) {ts : List (List Char)} {close : List Char} (ended : Ended close) :
    Ended (behindFirst layout.itemSeparator ts close) := by
  obtain ⟨blanks, separator, -⟩ := spaced.item
  unfold behindFirst
  split
  · exact ended
  · rw [separator]
    exact ended_cons (by decide)

theorem behindFirst_inj (spaced : Spaced layout) {ts us : List (List Char)} {c : Char} {rest rest' : List Char} (other : c ≠ ',')
    (same : behindFirst layout.itemSeparator ts (c :: rest) = behindFirst layout.itemSeparator us (c :: rest')) :
    separate layout.itemSeparator ts ++ c :: rest = separate layout.itemSeparator us ++ c :: rest' := by
  obtain ⟨blanks, separator, -⟩ := spaced.item
  unfold behindFirst at same
  rw [separator] at same ⊢
  by_cases none : ts = []
  · by_cases none' : us = []
    · rw [if_pos none, if_pos none'] at same
      rw [none, none', same]
    · rw [if_pos none, if_neg none'] at same
      exact absurd (List.cons.inj same).1 other
  · by_cases none' : us = []
    · rw [if_neg none, if_pos none'] at same
      exact absurd (List.cons.inj same).1.symm other
    · rw [if_neg none, if_neg none'] at same
      exact List.append_cancel_left same

mutual

theorem text_inj (spaced : Spaced layout) : ∀ v v' : Json, ∀ rest rest', Ended rest → Ended rest' →
    text floats.repr layout v ++ rest = text floats.repr layout v' ++ rest' → v = v'
  | .null, _, _, _, ended, ended', same => atomic_inj spaced trivial ended ended' same
  | .bool _, _, _, _, ended, ended', same => atomic_inj spaced trivial ended ended' same
  | .int _, _, _, _, ended, ended', same => atomic_inj spaced trivial ended ended' same
  | .float _, _, _, _, ended, ended', same => atomic_inj spaced trivial ended ended' same
  | .str _, _, _, _, ended, ended', same => atomic_inj spaced trivial ended ended' same
  | .list xs, v', rest, rest', ended, ended', same => by
    obtain ⟨again, -⟩ := behind_text spaced ended ended' same
    cases v' with
    | list ys =>
      simp only [text, List.cons_append, List.append_assoc, List.cons.injEq, true_and, List.nil_append] at same
      rw [texts_inj spaced xs ys rest rest' same]
    | _ => simp [reread] at again
  | .dict es, v', rest, rest', ended, ended', same => by
    obtain ⟨again, -⟩ := behind_text spaced ended ended' same
    cases v' with
    | dict fs =>
      have opened (es : List (String × Json)) (rest : List Char) : text floats.repr layout (.dict es) ++ rest = '\x7b' ::
          (separate layout.itemSeparator ((entryTexts floats.repr layout es).map (entryText layout)) ++ '\x7d' :: rest) := by
        rw [text, arrange, if_neg (by simp [spaced.unsorted]), List.append_assoc]
        rfl
      rw [opened, opened] at same
      rw [entryTexts_inj spaced es fs rest rest' (List.cons.inj same).2]
    | _ => simp [reread] at again

theorem texts_inj (spaced : Spaced layout) : ∀ (xs ys : List Json) (rest rest' : List Char),
    separate layout.itemSeparator (texts floats.repr layout xs) ++ ']' :: rest =
      separate layout.itemSeparator (texts floats.repr layout ys) ++ ']' :: rest' → xs = ys
  | [], [], _, _, _ => rfl
  | [], y :: ys, rest, rest', same => by
    have opens : Opens (separate layout.itemSeparator (texts floats.repr layout (y :: ys))) := separate_opens (text_opens y)
    obtain ⟨c, tail, begins, -, other⟩ := opens
    rw [begins] at same
    exact absurd (List.cons.inj same).1 (Ne.symm other)
  | x :: xs, [], rest, rest', same => by
    have opens : Opens (separate layout.itemSeparator (texts floats.repr layout (x :: xs))) := separate_opens (text_opens x)
    obtain ⟨c, tail, begins, -, other⟩ := opens
    rw [begins] at same
    exact absurd (List.cons.inj same).1 other
  | x :: xs, y :: ys, rest, rest', same => by
    simp only [texts] at same
    rw [separate_first, separate_first] at same
    have ended (r : List Char) (ts : List (List Char)) : Ended (behindFirst layout.itemSeparator ts (']' :: r)) :=
      ended_behindFirst spaced (ended_cons (by decide))
    have tails := behindFirst_inj spaced (by decide) (behind_text spaced (ended _ _) (ended _ _) same).2
    rw [text_inj spaced x y _ _ (ended _ _) (ended _ _) same, texts_inj spaced xs ys rest rest' tails]

theorem entryTexts_inj (spaced : Spaced layout) : ∀ (es fs : List (String × Json)) (rest rest' : List Char),
    separate layout.itemSeparator ((entryTexts floats.repr layout es).map (entryText layout)) ++ '\x7d' :: rest =
      separate layout.itemSeparator ((entryTexts floats.repr layout fs).map (entryText layout)) ++ '\x7d' :: rest' → es = fs
  | [], [], _, _, _ => rfl
  | [], (k, v) :: fs, rest, rest', same => by
    simp only [entryTexts, List.map_cons] at same
    rw [separate_first] at same
    obtain ⟨tail, opens⟩ : ∃ tail, entryText layout (k, text floats.repr layout v) = '"' :: tail := entry_opens _
    rw [opens] at same
    exact absurd (List.cons.inj same).1 (by decide)
  | (k, v) :: es, [], rest, rest', same => by
    simp only [entryTexts, List.map_cons] at same
    rw [separate_first] at same
    obtain ⟨tail, opens⟩ : ∃ tail, entryText layout (k, text floats.repr layout v) = '"' :: tail := entry_opens _
    rw [opens] at same
    exact absurd (List.cons.inj same).1 (by decide)
  | (k, v) :: es, (k', v') :: fs, rest, rest', same => by
    simp only [entryTexts, List.map_cons] at same
    rw [separate_first, separate_first, entryText, entryText] at same
    simp only [List.append_assoc] at same
    obtain ⟨rfl, values⟩ := quote_inj same
    have values := List.append_cancel_left values
    have ended (r : List Char) (ts : List (List Char)) : Ended (behindFirst layout.itemSeparator ts ('\x7d' :: r)) :=
      ended_behindFirst spaced (ended_cons (by decide))
    have tails := behindFirst_inj spaced (by decide) (behind_text spaced (ended _ _) (ended _ _) values).2
    rw [text_inj spaced v v' _ _ (ended _ _) (ended _ _) values, entryTexts_inj spaced es fs rest rest' tails]

end

/-- Two values with one text are the same. -/
theorem dumps_inj (spaced : Spaced layout) {v v' : Json} (same : dumps floats.repr layout v = dumps floats.repr layout v') : v = v' := by
  have texts : text floats.repr layout v = text floats.repr layout v' := String.ofList_injective same
  exact text_inj spaced v v' [] [] ended_nil ended_nil (by rw [texts])

end

/-! ### Equal up to the order of the keys -/

mutual

/-- `==` of two values of the same types: the order of a dictionary's entries does not matter. -/
def Alike : Json → Json → Prop
  | .list xs, .list ys => AllAlike xs ys
  | .dict es, .dict fs => es.length = fs.length ∧ EntriesAlike es fs
  | v, w => v = w

def AllAlike : List Json → List Json → Prop
  | [], [] => True
  | v :: vs, w :: ws => Alike v w ∧ AllAlike vs ws
  | _, _ => False

/-- Each of these entries is in the dictionary. -/
def EntriesAlike : List (String × Json) → List (String × Json) → Prop
  | [], _ => True
  | (k, v) :: rest, fs => (∃ w, Dict.get? fs k = some w ∧ Alike v w) ∧ EntriesAlike rest fs

end

theorem arrangedEntries_map (es : List (String × Json)) : arrangedEntries es = es.map fun e => (e.1, arranged e.2) := by
  induction es with
  | nil => rfl
  | cons e rest ih =>
    obtain ⟨k, v⟩ := e
    rw [arrangedEntries, ih, List.map_cons]

theorem keyed_of_mem {es : List (String × Json)} {k : String} {v : Json} (keyed : EntriesKeyed es) (member : (k, v) ∈ es) : Keyed v := by
  induction es with
  | nil => cases member
  | cons e rest ih =>
    obtain ⟨k', v'⟩ := e
    rw [EntriesKeyed] at keyed
    rcases List.mem_cons.mp member with same | later
    · rw [(Prod.mk.inj same).2]
      exact keyed.1
    · exact ih keyed.2 later

theorem perm_of_sorted {es fs : List (String × Json)} (same : sortEntries es = sortEntries fs) : es.Perm fs :=
  (sortEntries_perm es).symm.trans (same ▸ sortEntries_perm fs)

theorem alike_atomic {v w : Json} (plain : Atomic v) (same : arranged v = arranged w) : Alike v w := by
  cases v with
  | list xs => cases plain
  | dict es => cases plain
  | _ =>
    cases w with
    | list ys => simp [arranged] at same
    | dict fs => simp [arranged] at same
    | _ =>
      simp only [arranged] at same
      simp only [Alike, same]

mutual

/-- What is arranged the same way is the same up to the order of the keys. -/
theorem alike_of_arranged : ∀ v w : Json, Keyed v → Keyed w → arranged v = arranged w → Alike v w
  | .null, _, _, _, same => alike_atomic trivial same
  | .bool _, _, _, _, same => alike_atomic trivial same
  | .int _, _, _, _, same => alike_atomic trivial same
  | .float _, _, _, _, same => alike_atomic trivial same
  | .str _, _, _, _, same => alike_atomic trivial same
  | .list xs, w, keyed, keyed', same => by
    cases w with
    | list ys =>
      rw [arranged, arranged] at same
      rw [Keyed] at keyed keyed'
      rw [Alike]
      exact allAlike_of_arranged xs ys keyed keyed' (Json.list.inj same)
    | _ => simp [arranged] at same
  | .dict es, w, keyed, keyed', same => by
    cases w with
    | dict fs =>
      rw [arranged, arranged] at same
      rw [Keyed] at keyed keyed'
      have perm := perm_of_sorted (Json.dict.inj same)
      have lengths := perm.length_eq
      rw [arrangedEntries_map, arrangedEntries_map, List.length_map, List.length_map] at lengths
      rw [Alike]
      exact ⟨lengths, entriesAlike_of_arranged es fs keyed.2 keyed' fun e member => perm.mem_iff.mp member⟩
    | _ => simp [arranged] at same

theorem allAlike_of_arranged : ∀ xs ys : List Json, AllKeyed xs → AllKeyed ys → arrangedAll xs = arrangedAll ys → AllAlike xs ys
  | [], [], _, _, _ => by rw [AllAlike]; trivial
  | [], _ :: _, _, _, same => by cases same
  | _ :: _, [], _, _, same => by cases same
  | x :: xs, y :: ys, keyed, keyed', same => by
    rw [arrangedAll, arrangedAll] at same
    rw [AllKeyed] at keyed keyed'
    obtain ⟨first, rest⟩ := List.cons.inj same
    rw [AllAlike]
    exact ⟨alike_of_arranged x y keyed.1 keyed'.1 first, allAlike_of_arranged xs ys keyed.2 keyed'.2 rest⟩

theorem entriesAlike_of_arranged : ∀ es fs : List (String × Json), EntriesKeyed es → Dict.Distinct fs ∧ EntriesKeyed fs →
    (∀ e ∈ arrangedEntries es, e ∈ arrangedEntries fs) → EntriesAlike es fs
  | [], _, _, _, _ => by rw [EntriesAlike]; trivial
  | (k, v) :: rest, fs, keyed, keyed', inside => by
    rw [EntriesKeyed] at keyed
    rw [arrangedEntries] at inside
    have first := inside _ List.mem_cons_self
    rw [arrangedEntries_map] at first
    obtain ⟨⟨k', w⟩, member, same⟩ := List.mem_map.mp first
    obtain ⟨rfl, values⟩ := Prod.mk.inj same
    rw [EntriesAlike]
    exact ⟨⟨w, Dict.get?_of_mem keyed'.1 member, alike_of_arranged v w keyed.1 (keyed_of_mem keyed'.2 member) values.symm⟩,
      entriesAlike_of_arranged rest fs keyed.2 keyed' fun e later => inside e (List.mem_cons_of_mem _ later)⟩

end

/-- The sorted text of a value determines it. -/
theorem alike_of_dumps {floats : Floats} {layout : Layout} (spaced : Spaced { layout with sortKeys := false }) {v w : Json}
    (keyed : Keyed v) (keyed' : Keyed w)
    (same : dumps floats.repr { layout with sortKeys := true } v = dumps floats.repr { layout with sortKeys := true } w) : Alike v w := by
  unfold dumps at same
  rw [text_sorted, text_sorted] at same
  exact alike_of_arranged v w keyed keyed' (dumps_inj spaced same)

end ControlPlane.Data.Json
