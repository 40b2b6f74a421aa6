import Mathlib
import PlaceholderExports.Proofs.FsPath.Output

/-!
# Following paths

Without looking at files, a path is followed from the root by its components: a name leads into a
directory, and `..` leads out of it. `resolve` gives the names on the way to where it ends. A path
behind a directory ends below it if its components never lead above the start (`descends`), and
strictly below if a name comes last (`isStrictlyBelow_name`).
-/

namespace PlaceholderExports.FsPath

/-! ### Walks -/

/-- The names on the way from the root to the end of a walk, the last one first. At the root, `..`
leads nowhere. -/
def walk : List (List Char) → List Component → List (List Char)
  | way, [] => way
  | _, .root :: cs => walk [] cs
  | way, .here :: cs => walk way cs
  | way, .parent :: cs => walk way.tail cs
  | way, .name n :: cs => walk (n :: way) cs

/-- The names on the way from the root to where a path ends. -/
def resolve (text : String) : List (List Char) := (walk [] (components text.toList)).reverse

/-- Whether a walk from so many directories below some point never leads above that point. -/
def descends : Nat → List Component → Bool
  | _, [] => true
  | _, .root :: _ => false
  | depth, .here :: cs => descends depth cs
  | 0, .parent :: _ => false
  | depth + 1, .parent :: cs => descends depth cs
  | depth, .name _ :: cs => descends (depth + 1) cs

/-- A walk goes along the first components and then along the others. -/
lemma walk_append (way : List (List Char)) (a b : List Component) :
    walk way (a ++ b) = walk (walk way a) b := by
  induction a generalizing way with
  | nil => rfl
  | cons c a ih => cases c <;> exact ih _

/-- A walk that never leads above its start does not do so at its beginning. -/
lemma descends_of_append {depth : Nat} {a b : List Component} (h : descends depth (a ++ b)) :
    descends depth a := by
  induction a generalizing depth with
  | nil => rfl
  | cons c a ih =>
    cases c with
    | root => cases h
    | here => exact ih h
    | parent =>
      cases depth with
      | zero => cases h
      | succ depth => exact ih h
    | name n => exact ih h

/-- A walk that never leads above its start keeps the way to it. -/
lemma walk_of_descends {front : List (List Char)} {cs : List Component}
    (h : descends front.length cs) (way : List (List Char)) :
    ∃ front', walk (front ++ way) cs = front' ++ way := by
  -- `front` is the way since the start, so the depth is its length
  induction cs generalizing front with
  | nil => exact ⟨front, rfl⟩
  | cons c cs ih =>
    cases c with
    | root => cases h
    | here => exact ih h
    | parent =>
      cases front with
      | nil => cases h
      | cons n front => exact @ih front h
    | name n => exact @ih (n :: front) h

/-! ### Below a directory -/

/-- Whether a path starts at the root. -/
def IsAbsolute (text : String) : Prop := text.toList.head? = some '/'

/-- Whether a path ends in a directory or somewhere below it. -/
def IsBelow (dir text : String) : Prop := resolve dir <+: resolve text

/-- Whether a path ends below a directory and not in it. -/
def IsStrictlyBelow (dir text : String) : Prop := IsBelow dir text ∧ resolve text ≠ resolve dir

instance (text : String) : Decidable (IsAbsolute text) :=
  inferInstanceAs (Decidable (_ = _))

instance (dir text : String) : Decidable (IsBelow dir text) :=
  inferInstanceAs (Decidable (_ <+: _))

instance (dir text : String) : Decidable (IsStrictlyBelow dir text) :=
  inferInstanceAs (Decidable (_ ∧ _))

section Below

variable {outDir : String} {dir : List Char} (absolute : IsAbsolute outDir) (hd : IsDirPart dir)

include absolute in
/-- The text of an absolute directory starts with a slash, whatever follows. -/
lemma head?_below (rest : List Char) : (below outDir.toList ++ rest).head? = some '/' := by
  obtain ⟨front, text⟩ := List.head?_eq_some_iff.1 absolute
  unfold below
  rw [text]
  split <;> rfl

include absolute hd

/-- A path below an output directory has the components of that directory and then those of its
solid segments. -/
lemma components_below (rest : List Char) :
    components (below outDir.toList ++ dir ++ rest) =
      components outDir.toList ++ (solids dir ++ solids rest).map Layout.solidComponent := by
  rw [components_eq, components_eq outDir.toList, lead_of_absolute absolute, List.append_assoc,
    lead_of_absolute (head?_below absolute _), solids_dir_append (isDirPart_below _),
    solids_dir_append hd, solids_below, List.map_append, List.append_assoc]

variable (stays : descends 0 ((solids dir).map Layout.solidComponent))

include stays

/-- A directory part that never leads above its start leads to a place below it. -/
lemma resolve_dir_append (rest : List Char) : ∃ names,
    resolve (String.ofList (below outDir.toList ++ dir ++ rest)) =
      (walk (names ++ (resolve outDir).reverse)
        ((solids rest).map Layout.solidComponent)).reverse := by
  obtain ⟨names, kept⟩ := @walk_of_descends [] _ stays (resolve outDir).reverse
  refine ⟨names, ?_⟩
  unfold resolve at kept ⊢
  rw [List.reverse_reverse] at kept ⊢
  rw [String.toList_ofList, components_below absolute hd, List.map_append, walk_append, walk_append,
    ← kept, List.nil_append]

/-- A directory part that never leads above its start ends below the directory. -/
lemma isBelow_dir : IsBelow outDir (String.ofList (below outDir.toList ++ dir)) := by
  obtain ⟨names, resolved⟩ := resolve_dir_append absolute hd stays []
  unfold IsBelow
  rw [← List.append_nil (_ ++ dir), resolved, solids_nil, List.map_nil, walk, List.reverse_append,
    List.reverse_reverse]
  exact List.prefix_append _ _

/-- A name in a directory part that never leads above its start ends strictly below the
directory. -/
theorem isStrictlyBelow_name {n : List Char} (hn : IsName n) :
    IsStrictlyBelow outDir (String.ofList (below outDir.toList ++ dir ++ n)) := by
  obtain ⟨names, resolved⟩ := resolve_dir_append absolute hd stays n
  have component : Layout.solidComponent n = .name n := if_neg hn.notParent
  rw [hn.solids_eq, List.map_singleton, component, walk, walk, ← List.cons_append,
    List.reverse_append, List.reverse_reverse] at resolved
  unfold IsStrictlyBelow IsBelow
  rw [resolved]
  refine ⟨List.prefix_append _ _, fun same => ?_⟩
  rw [List.append_right_eq_self, List.reverse_eq_nil_iff] at same
  cases same

end Below

/-! ### Directories of paths -/

/-- The directory of a path behind an absolute directory part is that part. -/
lemma components_dirname {dir n : List Char} (absolute : dir.head? = some '/')
    (last : dir.getLast? = some '/') (noSlash : '/' ∉ n) :
    components (dirname (String.ofList (dir ++ n))).toList = components dir := by
  obtain ⟨front, rfl⟩ := List.getLast?_eq_some_iff.1 last
  have found : (front ++ ['/'] ++ n).reverse.dropWhile (· ≠ '/') = '/' :: front.reverse := by
    rw [List.reverse_append, List.reverse_concat, List.dropWhile_append_of_pos]
    · rfl
    · intro c mem
      rw [decide_eq_true_eq]
      rintro rfl
      exact noSlash (List.mem_reverse.1 mem)
  unfold dirname
  rw [String.toList_ofList, found]
  -- directly below the root the directory is the root, and not the empty text before the slash
  cases reversed : front.reverse with
  | nil =>
    rw [List.reverse_eq_nil_iff.1 reversed]
    rfl
  | cons c before =>
    have text : (c :: before).reverse = front := by rw [← reversed, List.reverse_reverse]
    have ne : front ≠ [] := fun none => by cases none ▸ reversed
    have absolute' : front.head? = some '/' := by rwa [List.head?_append_of_ne_nil _ ne] at absolute
    show components (String.ofList (c :: before).reverse).toList = _
    rw [text, String.toList_ofList, components_eq, components_eq (_ ++ ['/']),
      lead_of_absolute absolute, lead_of_absolute absolute', solids_append_slash, solids_nil,
      List.append_nil]

/-! ### Files with a proper place -/

/-- Whether a file has a name and, if the root begins its path, the rest of the path is not empty
and never leads above the root. -/
structure IsWellPlaced (root file : String) : Prop where
  named : ∃ n, fileName? file.toList = some n
  inside : ∀ rel, components file.toList = components root.toList ++ rel →
    rel ≠ [] ∧ descends 0 rel = true

/-- A file with a proper place relative to a root. -/
theorem IsWellPlaced.exists_place {root file : String} (h : IsWellPlaced root file)
    (absolute : IsAbsolute root) :
    ∃ dir name, Place root.toList file.toList dir name ∧
      (∀ c ∈ dir ++ name, c = '/' ∨ c ∈ file.toList) ∧
      descends 0 ((solids dir).map Layout.solidComponent) = true := by
  have ne : components root.toList ≠ [] := by
    rw [components_eq, lead_of_absolute absolute]
    exact List.cons_ne_nil _ _
  obtain ⟨dir, name, place, chars, rest | empty⟩ :=
    FsPath.exists_place ne h.named fun rel whole => (h.inside rel whole).1
  · refine ⟨dir, name, place, chars, ?_⟩
    have stays := (h.inside _ rest).2
    rw [List.map_append] at stays
    exact descends_of_append stays
  · subst empty
    exact ⟨[], name, place, chars, rfl⟩

end PlaceholderExports.FsPath
