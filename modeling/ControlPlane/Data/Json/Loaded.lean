import ControlPlane.Data.Json.RoundTrip

/-!
# What `json.loads` returns

No dictionary that was read has a key twice.
-/

namespace ControlPlane.Data.Json

theorem entriesKeyed_iff {es : List (String × Json)} : EntriesKeyed es ↔ ∀ e ∈ es, Keyed e.2 := by
  induction es with
  | nil => simp [EntriesKeyed]
  | cons e rest ih =>
    obtain ⟨k, v⟩ := e
    rw [EntriesKeyed, ih, List.forall_mem_cons]

theorem keyed_ofList {es : List (String × Json)} (keyed : EntriesKeyed es) : Keyed (.dict (Dict.ofList es)) := by
  have kept : ∀ d : List (String × Json), (∀ e ∈ d, Keyed e.2) → ∀ e ∈ es.foldl (fun d e => Dict.set d e.1 e.2) d, Keyed e.2 := by
    rw [entriesKeyed_iff] at keyed
    induction es with
    | nil => exact fun d all => all
    | cons e rest ih =>
      obtain ⟨first, later⟩ := List.forall_mem_cons.mp keyed
      intro d all
      refine ih later _ fun f member => ?_
      rcases Dict.mem_set member with rfl | old
      · exact first
      · exact all f old
  rw [Keyed, entriesKeyed_iff]
  exact ⟨Dict.distinct_ofList es, kept [] (by simp)⟩

section

variable {floats : Floats}

theorem scalar_keyed {cs rest : List Char} {v : Json} (read : scalar floats cs = some (v, rest)) : Keyed v := by
  have number_keyed (t : List Char) (v : Json) (read : number floats t = some v) : Keyed v := by
    unfold number at read
    dsimp only at read
    split at read
    · cases read
      trivial
    split at read
    · cases read
      trivial
    · cases read
  unfold scalar at read
  iterate 6
    split at read
    · cases read
      trivial
  obtain ⟨w, found, same⟩ := Option.map_eq_some_iff.mp read
  obtain ⟨rfl, -⟩ := Prod.mk.inj same
  exact number_keyed _ _ found

theorem value_keyed (n : Nat) : (∀ cs v rest, value floats n cs = some (v, rest) → Keyed v) ∧
    (∀ cs vs rest, items floats n cs = some (vs, rest) → AllKeyed vs) ∧
      ∀ cs es rest, members floats n cs = some (es, rest) → EntriesKeyed es := by
  induction n with
  | zero =>
    refine ⟨?_, ?_, ?_⟩ <;> intro cs v rest read <;> cases read
  | succ n ih =>
    obtain ⟨values, lists, entries⟩ := ih
    refine ⟨?_, ?_, ?_⟩
    · intro cs v rest read
      cases cs with
      | nil => cases read
      | cons c tail =>
        rw [value] at read
        split at read
        · obtain ⟨⟨s, after⟩, -, same⟩ := Option.bind_eq_some_iff.mp read
          cases same
          trivial
        split at read
        · split at read
          · cases read
            trivial
          · obtain ⟨⟨vs, after⟩, found, same⟩ := Option.bind_eq_some_iff.mp read
            cases same
            exact lists _ _ _ found
        split at read
        · split at read
          · cases read
            exact @keyed_ofList [] trivial
          · obtain ⟨⟨es, after⟩, found, same⟩ := Option.bind_eq_some_iff.mp read
            cases same
            exact keyed_ofList (entries _ _ _ found)
        · exact scalar_keyed read
    · intro cs vs rest read
      rw [items] at read
      obtain ⟨⟨v, after⟩, found, read⟩ := Option.bind_eq_some_iff.mp read
      have first := values _ _ _ found
      dsimp only at read
      split at read
      · cases read
        exact ⟨first, trivial⟩
      · obtain ⟨next, -, read⟩ := Option.bind_eq_some_iff.mp read
        obtain ⟨⟨ws, last⟩, more, same⟩ := Option.bind_eq_some_iff.mp read
        cases same
        exact ⟨first, lists _ _ _ more⟩
    · intro cs es rest read
      rw [members] at read
      obtain ⟨quoted, -, read⟩ := Option.bind_eq_some_iff.mp read
      obtain ⟨⟨k, after⟩, -, read⟩ := Option.bind_eq_some_iff.mp read
      obtain ⟨colon, -, read⟩ := Option.bind_eq_some_iff.mp read
      obtain ⟨⟨v, after'⟩, found, read⟩ := Option.bind_eq_some_iff.mp read
      have first := values _ _ _ found
      dsimp only at read
      split at read
      · cases read
        exact ⟨first, trivial⟩
      · obtain ⟨next, -, read⟩ := Option.bind_eq_some_iff.mp read
        obtain ⟨⟨fs, last⟩, more, same⟩ := Option.bind_eq_some_iff.mp read
        cases same
        exact ⟨first, entries _ _ _ more⟩

/-- What was read has no key twice. -/
theorem loads_keyed {s : String} {v : Json} (read : loads floats s = some v) : Keyed v := by
  unfold loads at read
  obtain ⟨⟨w, rest⟩, found, read⟩ := Option.bind_eq_some_iff.mp read
  dsimp only at read
  split at read
  · cases read
    exact (value_keyed _).1 _ _ _ found
  · cases read

end

end ControlPlane.Data.Json
