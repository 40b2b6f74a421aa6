import Mathlib
import PlaceholderExports.NameSet

/-!
# The order of names

A `NameSet` is built by adding names one after the other. This module says which list comes out: the
names that were there, followed by the new ones in the order of their first occurrences
(`toList_addAll`), and so `List.eraseDups` for a set that starts empty (`toList_ofList`). Names that
are there already are absorbed (`addAll_eq_self`).
-/

namespace PlaceholderExports.NameSet

/-- Adding a name that is there changes nothing. -/
lemma add_eq_self {s : NameSet} {name : String} (h : name ∈ s) : s.add name = s := by
  unfold add
  exact dif_pos h

/-- Adding a name that is new puts it at the end. -/
lemma toList_add_of_notMem {s : NameSet} {name : String} (h : name ∉ s) :
    (s.add name).toList = s.toList ++ [name] := by
  rw [toList_add]
  exact if_neg h

/-- A name that has been added can be added again. -/
@[simp] lemma add_add_self (s : NameSet) (name : String) : (s.add name).add name = s.add name :=
  add_eq_self (by simp)

/-- Names can be added in two goes. -/
lemma addAll_append (s : NameSet) (first second : List String) :
    s.addAll (first ++ second) = (s.addAll first).addAll second := by
  unfold addAll
  exact List.foldl_append

/-- Adding names that are all there changes nothing. -/
lemma addAll_eq_self {s : NameSet} {names : List String} (h : ∀ name ∈ names, name ∈ s) :
    s.addAll names = s := by
  induction names with
  | nil => rfl
  | cons name names ih =>
    obtain ⟨here, rest⟩ := List.forall_mem_cons.1 h
    rw [addAll_cons, add_eq_self here]
    exact ih rest

/-- The new names of a list follow the old ones, each at its first occurrence. -/
lemma toList_addAll (s : NameSet) (names : List String) :
    (s.addAll names).toList = s.toList ++ (names.removeAll s.toList).eraseDups := by
  induction names generalizing s with
  | nil => simp
  | cons name names ih =>
    rw [addAll_cons, ih]
    by_cases h : name ∈ s
    · have skip : (name :: names).removeAll s.toList = names.removeAll s.toList := by
        simp [List.removeAll, mem_def.1 h]
      rw [add_eq_self h, skip]
    · -- the new name is removed from what follows, either as a member of the larger set or as a
      -- repeat of the head
      have keep : (name :: names).removeAll s.toList = name :: names.removeAll s.toList := by
        simp [List.removeAll, mem_def.not.1 h]
      have later : names.removeAll (s.toList ++ [name]) =
          (names.removeAll s.toList).filter fun b => !b == name := by
        simp [List.removeAll, List.filter_filter, Bool.and_comm, beq_eq_decide]
      rw [toList_add_of_notMem h, keep, later, List.eraseDups_cons]
      simp

/-- The names that are there stay in front. -/
lemma prefix_addAll (s : NameSet) (names : List String) :
    s.toList <+: (s.addAll names).toList := by
  rw [toList_addAll]
  exact List.prefix_append _ _

/-- The names of a list, each at its first occurrence. -/
lemma toList_ofList (names : List String) : (ofList names).toList = names.eraseDups := by
  unfold ofList
  rw [toList_addAll]
  simp [empty, List.removeAll]

/-- A set made from a list holds the names of the list. -/
@[simp] lemma mem_ofList {names : List String} {name : String} :
    name ∈ ofList names ↔ name ∈ names := by
  rw [mem_def, toList_ofList]
  exact List.mem_eraseDups

/-- First occurrences are distinct. -/
lemma nodup_eraseDups (names : List String) : names.eraseDups.Nodup := by
  rw [← toList_ofList]
  exact (ofList names).nodup

/-- A set made from two lists holds the first occurrences of the first one, then those of the second
one that are new. -/
lemma ofList_append (first second : List String) :
    ofList (first ++ second) = (ofList first).addAll second :=
  addAll_append empty first second

/-- Sets with the same names are of the same size. -/
lemma length_eq {s t : NameSet} (h : ∀ name, name ∈ s ↔ name ∈ t) :
    s.toList.length = t.toList.length := by
  have perm : s.toList.Perm t.toList := (List.perm_ext_iff_of_nodup s.nodup t.nodup).2 h
  exact perm.length_eq

end PlaceholderExports.NameSet
