/-!
# Association lists

Values by key, in the order in which the keys first came. A new value takes the place of the one
that the key has, and a new key goes to the end, so the order of the keys never changes. Values are
found by `List.lookup`.

* `update`, `put`: a new value for a key, made from the one that it has or not.
* `last?`: the value that comes last for a key, where a key may come more than once.
* `lookup_update`, `lookup_put`: the value of every key after a change.
* `map_fst_update`, `nodup_update`: the keys after a change.
* `last?_append`: last values by what comes later.
-/

namespace PlaceholderExports.Assoc

variable {α β : Type} [DecidableEq α]

/-- Gives a key a new value, made from the value that it has, if any. -/
def update (key : α) (f : Option β → β) : List (α × β) → List (α × β)
  | [] => [(key, f none)]
  | (k, old) :: rest =>
    if k = key then (k, f (some old)) :: rest else (k, old) :: update key f rest

/-- Gives a key a value. -/
def put (key : α) (value : β) (entries : List (α × β)) : List (α × β) :=
  update key (fun _ => value) entries

/-- The value that comes last for a key. -/
def last? (key : α) (entries : List (α × β)) : Option β := entries.reverse.lookup key

variable {key k : α} {value v : β} {f : Option β → β} {entries : List (α × β)}

/-! ### Looking up -/

/-- A value is found in front or in the rest. -/
theorem lookup_cons :
    ((k, v) :: entries).lookup key = if key = k then some v else entries.lookup key := by
  rw [List.lookup_cons]
  by_cases same : key = k
  · subst same
    rw [beq_self_eq_true, if_pos rfl]
  · rw [beq_eq_false_iff_ne.2 same, if_neg same]

/-- A key has a value if it is among the keys. -/
theorem isSome_lookup : (entries.lookup key).isSome = true ↔ key ∈ entries.map (·.1) := by
  rw [List.lookup_isSome_iff, List.mem_map]
  simp only [beq_iff_eq]
  exact exists_congr fun _ => and_congr_right fun _ => eq_comm

/-- An update changes the value of its own key and of no other one. -/
theorem lookup_update :
    (update key f entries).lookup k =
      if k = key then some (f (entries.lookup key)) else entries.lookup k := by
  induction entries with
  | nil => exact lookup_cons
  | cons entry entries ih =>
    obtain ⟨k', old⟩ := entry
    unfold update
    by_cases own : k' = key
    · subst own
      rw [if_pos rfl, lookup_cons, lookup_cons, lookup_cons, if_pos rfl]
      by_cases same : k = k'
      · rw [if_pos same, if_pos same]
      · rw [if_neg same, if_neg same, if_neg same]
    · rw [if_neg own, lookup_cons, lookup_cons, lookup_cons, ih, if_neg (Ne.symm own)]
      by_cases same : k = k'
      · subst same
        rw [if_pos rfl, if_pos rfl, if_neg own]
      · rw [if_neg same, if_neg same]

/-- A key has the value that it was given, and all other keys have the values of before. -/
theorem lookup_put :
    (put key value entries).lookup k = if k = key then some value else entries.lookup k :=
  lookup_update

/-! ### Keys -/

/-- The keys stay in their order, and a new one comes last. -/
theorem map_fst_update :
    (update key f entries).map (·.1) =
      if key ∈ entries.map (·.1) then entries.map (·.1) else entries.map (·.1) ++ [key] := by
  induction entries with
  | nil => rfl
  | cons entry entries ih =>
    obtain ⟨k', old⟩ := entry
    unfold update
    by_cases own : k' = key
    · subst own
      rw [if_pos rfl, List.map_cons, List.map_cons, if_pos List.mem_cons_self]
    · rw [if_neg own, List.map_cons, ih]
      by_cases mem : key ∈ entries.map (·.1)
      · rw [if_pos mem]
        exact (if_pos (List.mem_cons_of_mem k' mem)).symm
      · rw [if_neg mem]
        exact (if_neg (List.not_mem_cons_of_ne_of_not_mem (Ne.symm own) mem)).symm

/-- No key comes twice. -/
theorem nodup_update (nodup : (entries.map (·.1)).Nodup) :
    ((update key f entries).map (·.1)).Nodup := by
  rw [map_fst_update]
  by_cases old : key ∈ entries.map (·.1)
  · rw [if_pos old]
    exact nodup
  · rw [if_neg old]
    refine List.nodup_append.2 ⟨nodup, List.pairwise_singleton _ key, fun a mem b last => ?_⟩
    rintro rfl
    exact old (List.mem_singleton.1 last ▸ mem)

/-! ### Last values -/

/-- What comes later counts. -/
theorem last?_append {later : List (α × β)} :
    last? k (entries ++ later) = (last? k later).or (last? k entries) := by
  unfold last?
  rw [List.reverse_append, List.lookup_append]

/-- One more entry is the last one of its key. -/
theorem last?_concat :
    last? k (entries ++ [(key, value)]) = if k = key then some value else last? k entries := by
  unfold last?
  rw [List.reverse_concat]
  exact lookup_cons

/-- A single entry is the last one of its key. -/
theorem last?_singleton : last? k [(key, value)] = if k = key then some value else none :=
  lookup_cons

/-- A key that comes at all has a last value. -/
theorem isSome_last? : (last? key entries).isSome = true ↔ ∃ value, (key, value) ∈ entries := by
  unfold last?
  rw [isSome_lookup, List.mem_map]
  simp only [List.mem_reverse]
  constructor
  · rintro ⟨⟨_, value⟩, mem, rfl⟩
    exact ⟨value, mem⟩
  · rintro ⟨value, mem⟩
    exact ⟨(key, value), mem, rfl⟩

/-- A key that does not come has no last value. -/
theorem last?_eq_none (absent : ∀ value, (key, value) ∉ entries) : last? key entries = none := by
  rw [← Option.not_isSome_iff_eq_none, isSome_last?, not_exists]
  exact absent

end PlaceholderExports.Assoc
