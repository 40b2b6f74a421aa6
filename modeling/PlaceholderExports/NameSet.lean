/-!
# Sets of names in order of first appearance

A `NameSet` lists every name once, in the order in which the names first came. Adding a name that is
already there changes nothing, so the order of the first additions is the order that is shown.

* `toList_add`, `mem_add`: what adding does to the list and to membership.
-/

namespace PlaceholderExports

/-- Names without repeats, in the order in which they were first added. -/
structure NameSet where
  /-- The names, oldest first. -/
  toList : List String
  /-- No name occurs twice. -/
  nodup : toList.Nodup := by exact List.nodup_nil
deriving DecidableEq, Repr

namespace NameSet

instance : Membership String NameSet := ⟨fun s name => name ∈ s.toList⟩

instance (name : String) (s : NameSet) : Decidable (name ∈ s) :=
  inferInstanceAs (Decidable (name ∈ s.toList))

/-- The set without names. -/
def empty : NameSet := { toList := [] }

instance : Inhabited NameSet := ⟨empty⟩
instance : EmptyCollection NameSet := ⟨empty⟩

/-- A name is in a set if it is in its list. -/
theorem mem_def {s : NameSet} {name : String} : name ∈ s ↔ name ∈ s.toList := Iff.rfl

/-- Two sets with the same names in the same order are equal. -/
@[ext] theorem ext {s t : NameSet} (h : s.toList = t.toList) : s = t := by
  cases s; cases t; cases h; rfl

/-- Puts a name at the end unless it is already there. -/
def add (s : NameSet) (name : String) : NameSet :=
  if h : name ∈ s.toList then s
  else { toList := s.toList ++ [name]
         nodup := by
           refine List.nodup_append.2 ⟨s.nodup, by simp, fun a ha b hb => ?_⟩
           rintro rfl
           exact h (by simpa using (List.mem_singleton.1 hb) ▸ ha) }

/-- A name that is added goes to the end, if it is not there yet. -/
theorem toList_add (s : NameSet) (name : String) :
    (s.add name).toList = if name ∈ s.toList then s.toList else s.toList ++ [name] := by
  unfold add
  split <;> rfl

/-- The names after one more are those before and the new one. -/
@[simp] theorem mem_add {s : NameSet} {a b : String} : a ∈ s.add b ↔ a ∈ s ∨ a = b := by
  rw [mem_def, toList_add, mem_def]
  split
  · constructor
    · exact Or.inl
    · rintro (h | rfl) <;> assumption
  · simp

/-- Adds every name of a list, in order. -/
def addAll (s : NameSet) (names : List String) : NameSet := names.foldl add s

/-- Adding no names changes nothing. -/
@[simp] theorem addAll_nil (s : NameSet) : s.addAll [] = s := rfl

/-- Names are added one after the other. -/
@[simp] theorem addAll_cons (s : NameSet) (name : String) (names : List String) :
    s.addAll (name :: names) = (s.add name).addAll names := rfl

/-- The distinct names of a list, in the order in which they first occur. -/
def ofList (names : List String) : NameSet := empty.addAll names

/-- Whether there is no name. -/
def isEmpty (s : NameSet) : Bool := s.toList.isEmpty

end NameSet

end PlaceholderExports
