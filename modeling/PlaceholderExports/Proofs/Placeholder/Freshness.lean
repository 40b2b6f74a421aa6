import PlaceholderExports.Placeholder
import PlaceholderExports.Proofs.NameOrder

/-!
# Free placeholder names

The name of a placeholder is the base name or the base name with the least free number. A free
number exists because the numbered names are distinct and the reserved ones are finitely many
(`exists_free`); so the search always ends, at the least free number (`identifier_of_mem`), with a
name that is not reserved (`identifier_notMem`), and which name that is depends on the set of
reserved names alone (`identifier_congr`).
-/

namespace PlaceholderExports.Placeholder

/-- Numbered names with different numbers are different. -/
lemma numbered_injective (base : String) : Function.Injective (numbered base) := by
  intro m n h
  have chars := congrArg String.toList h
  simp only [numbered, String.toList_append] at chars
  have digits : (toString m).toList = (toString n).toList := List.append_cancel_left chars
  exact Nat.repr_injective (String.toList_injective digits)

/-- The base name is no numbered name. -/
lemma base_ne_numbered (base : String) (n : Nat) : base ≠ numbered base n := by
  intro h
  have length := congrArg String.length h
  simp only [numbered, String.length_append] at length
  have dollar : "$".length = 1 := rfl
  omega

/-- If the base name is reserved, then some number up to that of the reserved names is free. -/
lemma exists_free {base : String} {reserved : NameSet} (h : base ∈ reserved) :
    ∃ n, 1 ≤ n ∧ n ≤ reserved.toList.length ∧ numbered base n ∉ reserved := by
  by_contra taken
  push Not at taken
  -- otherwise the base name and these numbered names are one more than all reserved names
  have nodup : (base :: (List.range' 1 reserved.toList.length).map (numbered base)).Nodup := by
    refine List.nodup_cons.2 ⟨?_, List.Nodup.map (numbered_injective base) List.nodup_range'⟩
    intro mem
    obtain ⟨n, -, eq⟩ := List.mem_map.1 mem
    exact base_ne_numbered base n eq.symm
  have subset : base :: (List.range' 1 reserved.toList.length).map (numbered base) ⊆
      reserved.toList := by
    intro name mem
    rcases List.mem_cons.1 mem with rfl | mem
    · exact h
    · obtain ⟨n, range, rfl⟩ := List.mem_map.1 mem
      obtain ⟨low, high⟩ := List.mem_range'_1.1 range
      exact taken n low (by omega)
  have length := (List.subperm_of_subset nodup subset).length_le
  simp at length

/-- The least number from one that makes a free name of the base name. -/
structure IsLeastFree (base : String) (reserved : NameSet) (n : Nat) : Prop where
  pos : 1 ≤ n
  free : numbered base n ∉ reserved
  least : ∀ i, 1 ≤ i → i < n → numbered base i ∈ reserved

/-- If the base name is reserved, its least free number is at most that of the reserved names. -/
lemma exists_isLeastFree {base : String} {reserved : NameSet} (h : base ∈ reserved) :
    ∃ n, n ≤ reserved.toList.length ∧ IsLeastFree base reserved n := by
  obtain ⟨free, low, high, notMem⟩ := exists_free h
  have some : ∃ n, 1 ≤ n ∧ numbered base n ∉ reserved := ⟨free, low, notMem⟩
  refine ⟨Nat.find some, (Nat.find_min' some ⟨low, notMem⟩).trans high, ?_⟩
  obtain ⟨pos, fresh⟩ := Nat.find_spec some
  refine ⟨pos, fresh, fun i from1 before => ?_⟩
  by_contra notReserved
  exact Nat.find_min some before ⟨from1, notReserved⟩

/-- A search that goes far enough passes the reserved names and ends at the first free one. -/
lemma firstFree_eq_numbered {base : String} {reserved : NameSet} {tries n m : Nat} (le : n ≤ m)
    (free : numbered base m ∉ reserved)
    (before : ∀ i, n ≤ i → i < m → numbered base i ∈ reserved) (enough : m < n + tries) :
    firstFree base reserved tries n = some (numbered base m) := by
  induction tries generalizing n with
  | zero => exact absurd enough (by omega)
  | succ tries ih =>
    unfold firstFree
    by_cases here : n = m
    · subst here
      exact if_neg free
    · rw [if_pos (before n (le_refl n) (by omega))]
      exact ih (by omega) (fun i low high => before i (by omega) high) (by omega)

/-- However many numbers are tried, if the least free one is among them the search finds it. -/
lemma IsLeastFree.firstFree_eq {base : String} {reserved : NameSet} {n : Nat}
    (h : IsLeastFree base reserved n) {tries : Nat} (enough : n ≤ tries) :
    firstFree base reserved tries 1 = some (numbered base n) :=
  firstFree_eq_numbered h.pos h.free h.least (by omega)

/-- A base name that is free is taken as it is. -/
lemma identifier_of_notMem {base : String} {reserved : NameSet} (h : base ∉ reserved) :
    identifier base reserved = base := by
  unfold identifier
  exact if_neg h

/-- A base name that is reserved gets its least free number. -/
lemma identifier_of_mem {base : String} {reserved : NameSet} (h : base ∈ reserved) :
    ∃ n, n ≤ reserved.toList.length ∧ IsLeastFree base reserved n ∧
      identifier base reserved = numbered base n := by
  obtain ⟨n, le, leastFree⟩ := exists_isLeastFree h
  refine ⟨n, le, leastFree, ?_⟩
  unfold identifier
  rw [if_pos h, leastFree.firstFree_eq (Nat.le_succ_of_le le)]
  rfl

/-- The name of a placeholder is the base name or a numbered one. -/
lemma exists_identifier (base : String) (reserved : NameSet) :
    identifier base reserved = base ∨ ∃ n, identifier base reserved = numbered base n := by
  by_cases taken : base ∈ reserved
  · obtain ⟨n, -, -, same⟩ := identifier_of_mem taken
    exact .inr ⟨n, same⟩
  · exact .inl (identifier_of_notMem taken)

/-- The name of a placeholder is not reserved. -/
theorem identifier_notMem (base : String) (reserved : NameSet) :
    identifier base reserved ∉ reserved := by
  by_cases h : base ∈ reserved
  · obtain ⟨n, -, leastFree, eq⟩ := identifier_of_mem h
    rw [eq]
    exact leastFree.free
  · rw [identifier_of_notMem h]
    exact h

/-- Searches among the same reserved names find the same name. -/
lemma firstFree_congr {base : String} {r s : NameSet} (h : ∀ name, name ∈ r ↔ name ∈ s)
    (tries n : Nat) : firstFree base r tries n = firstFree base s tries n := by
  induction tries generalizing n with
  | zero => rfl
  | succ tries ih =>
    unfold firstFree
    simp only [h, ih]

/-- The name of a placeholder depends on the set of reserved names only. -/
theorem identifier_congr (base : String) {r s : NameSet} (h : ∀ name, name ∈ r ↔ name ∈ s) :
    identifier base r = identifier base s := by
  unfold identifier
  simp only [h, NameSet.length_eq h, firstFree_congr h]

end PlaceholderExports.Placeholder
