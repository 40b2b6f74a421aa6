import Mathlib
import PlaceholderExports.Glob.Walk
import PlaceholderExports.Proofs.FsPath.Output

/-!
# Paths of entries

The entry of a name stands behind the text of its directory (`toList_child`). Names that are
followed one after the other lead to the path that they are joined to, and an empty one among them
leaves no trace (`toList_descend`).
-/

namespace PlaceholderExports.FsPath

variable {path : FsPath} {n : List Char}

/-- An ordinary name is neither empty nor one of the two entries that every directory has. -/
lemma isName_iff : IsName n ↔ n ≠ [] ∧ '/' ∉ n ∧ String.ofList n ∉ Glob.dotEntries := by
  have dot : ∀ m : List Char, String.ofList n = String.ofList m ↔ n = m := fun m =>
    ⟨fun same => by simpa using congrArg String.toList same, congrArg String.ofList⟩
  have entries : String.ofList n ∈ Glob.dotEntries ↔ n = ['.'] ∨ n = ['.', '.'] := by
    rw [← dot ['.'], ← dot ['.', '.'], Glob.dotEntries, List.mem_cons, List.mem_singleton]
  have solid : isSolid n = true ↔ n ≠ [] ∧ n ≠ ['.'] := by
    unfold isSolid
    rw [Bool.and_eq_true, bne_iff_ne, bne_iff_ne]
  rw [entries, not_or]
  constructor
  · intro isName
    obtain ⟨notEmpty, notDot⟩ := solid.1 isName.solid
    exact ⟨notEmpty, isName.noSlash, notDot, isName.notParent⟩
  · rintro ⟨notEmpty, noSlash, notDot, notParent⟩
    exact ⟨solid.2 ⟨notEmpty, notDot⟩, notParent, noSlash⟩

/-! ### Behind a directory -/

/-- A slash at most is added to the text of a directory. -/
lemma below_sublist (dir : List Char) : (below dir).Sublist (dir ++ ['/']) := by
  unfold below
  split
  · exact List.sublist_append_left _ _
  · exact List.Sublist.refl _

/-- Nothing stands between a directory and what is below it, if it ends with a slash. -/
lemma below_of_isDirPart {dir : List Char} (closed : IsDirPart dir) : below dir = dir := by
  unfold below
  rw [if_pos]
  rw [Bool.or_eq_true]
  exact closed.imp List.isEmpty_iff.2 decide_eq_true

/-- What is below the root begins with one slash. -/
lemma below_root : below (⟨"/"⟩ : FsPath).text.toList = ['/'] := by decide

/-- Behind a name a slash is added. -/
lemma below_append_name {dir : List Char} (notEmpty : n ≠ []) (noSlash : '/' ∉ n) :
    below (dir ++ n) = dir ++ n ++ ['/'] := by
  unfold below
  rw [if_neg]
  rw [Bool.or_eq_true, List.isEmpty_iff, decide_eq_true_eq,
    List.getLast?_append_of_ne_nil _ notEmpty]
  rintro (empty | last)
  · exact notEmpty (List.append_eq_nil_iff.1 empty).2
  · exact noSlash (List.mem_of_getLast? last)

/-- A name stands behind the text of its directory. -/
lemma toList_child (noSlash : '/' ∉ n) :
    (path.child (String.ofList n)).text.toList = below path.text.toList ++ n := by
  have relative : n.head? ≠ some '/' := fun slash => noSlash (List.mem_of_head? slash)
  unfold child
  rw [String.toList_ofList, String.toList_ofList, append_eq_below relative]

/-! ### Names one after the other -/

/-- The path that some names lead to. -/
def descend (path : FsPath) (names : List (List Char)) : FsPath :=
  names.foldl (fun dir n => dir.child (String.ofList n)) path

/-- The root and the segments of a path, without the empty ones. -/
def withoutEmptySegments (path : FsPath) : FsPath :=
  ⟨String.ofList ('/' :: ['/'].intercalate ((List.splitOn '/' path.text.toList).filter (· ≠ [])))⟩

/-- Names lead to the path that they are joined to. An empty name leaves a slash, and behind a slash
none is added. -/
lemma toList_descend {front : List (List Char)} (notEmpty : n ≠ [])
    (noSlash : ∀ m ∈ front ++ [n], '/' ∉ m) :
    (path.descend (front ++ [n])).text.toList =
      below path.text.toList ++ ['/'].intercalate ((front ++ [n]).filter (· ≠ [])) := by
  induction front generalizing path with
  | nil =>
    rw [List.nil_append, List.filter_cons_of_pos (by simpa using notEmpty), List.filter_nil,
      List.intercalate_singleton]
    exact toList_child (noSlash n List.mem_cons_self)
  | cons m front ih =>
    obtain ⟨first, later⟩ := List.forall_mem_cons.1 noSlash
    refine (ih later).trans ?_
    rw [toList_child first, List.cons_append]
    by_cases empty : m = []
    · subst empty
      rw [List.filter_cons_of_neg (by simp), List.append_nil,
        below_of_isDirPart (isDirPart_below _)]
    · have others : (front ++ [n]).filter (· ≠ []) ≠ [] :=
        List.ne_nil_of_mem (List.mem_filter.2 ⟨List.mem_append_right _ List.mem_cons_self,
          decide_eq_true notEmpty⟩)
      rw [List.filter_cons_of_pos (by simpa using empty), below_append_name empty first,
        intercalate_cons m others, List.append_assoc, List.append_assoc, List.singleton_append]

/-! ### Paths from the root -/

/-- A path from the root that does not end in a slash has a name as its last segment. -/
lemma exists_names {t : List Char} (absolute : t.head? = some '/')
    (noSlash : t.getLast? ≠ some '/') :
    ∃ front n, List.splitOn '/' t = [] :: (front ++ [n]) ∧
      Glob.segmentTexts t = front ++ [n] ∧ n ≠ [] ∧ ∀ m ∈ front ++ [n], '/' ∉ m := by
  obtain ⟨text, rfl⟩ := List.head?_eq_some_iff.1 absolute
  obtain ⟨dir, n, rfl, closed, nameNoSlash⟩ := exists_dir_append text
  have segs : List.splitOn '/' (dir ++ n) = (List.splitOn '/' dir).dropLast ++ [n] := by
    rw [splitOn_dir_append closed, List.splitOn_eq_singleton nameNoSlash]
  have notEmpty : n ≠ [] := by
    rintro rfl
    refine noSlash ?_
    rw [List.getLast?_cons, List.append_nil]
    obtain rfl | last := closed
    · rfl
    · rw [last]
      rfl
  refine ⟨(List.splitOn '/' dir).dropLast, n, congrArg (List.cons []) segs, ?_, notEmpty,
    fun m mem => ?_⟩
  · unfold Glob.segmentTexts
    rw [if_pos absolute, List.tail_cons, segs]
    dsimp only
    rw [List.getLast?_concat, if_neg (by simpa using notEmpty)]
  · exact notMem_of_mem_splitOn (segs ▸ mem)

/-- The names of a path lead from the root to the path, but for its empty segments. -/
lemma descend_root {front : List (List Char)}
    (segs : List.splitOn '/' path.text.toList = [] :: (front ++ [n]))
    (notEmpty : n ≠ []) (noSlash : ∀ m ∈ front ++ [n], '/' ∉ m) :
    descend ⟨"/"⟩ (front ++ [n]) = path.withoutEmptySegments := by
  refine congrArg FsPath.mk (String.toList_inj.1 ((toList_descend notEmpty noSlash).trans ?_))
  rw [below_root, String.toList_ofList, segs, List.filter_cons_of_neg (by simp)]
  rfl

end PlaceholderExports.FsPath
