import Mathlib
import PlaceholderExports.FsPath

/-!
# Slash form and extensions

In slash form every backslash of a path is a slash. The base name becomes shorter by that, and an
extension may get lost: it is there if a dot stands in the base name after its first character
(`extname_eq_empty_iff`), and that dot may be in front of a backslash.
-/

namespace PlaceholderExports.FsPath

/-! ### Slash form -/

/-- The slash form of some characters. -/
def slashed (t : List Char) : List Char := t.map fun c => if c = '\\' then '/' else c

/-- The characters of a path in slash form. -/
lemma toList_normalize (text : String) : (normalize text).text.toList = slashed text.toList :=
  String.toList_map

/-- A text without backslashes is in slash form. -/
lemma slashed_of_notMem {t : List Char} (h : '\\' ∉ t) : slashed t = t := by
  unfold slashed
  conv_rhs => rw [← List.map_id t]
  refine List.map_congr_left fun c mem => if_neg ?_
  rintro rfl
  exact h mem

/-- A path without backslashes is in slash form. -/
lemma normalize_of_notMem {text : String} (h : '\\' ∉ text.toList) :
    FsPath.normalize text = ⟨text⟩ := by
  have same := toList_normalize text
  rw [slashed_of_notMem h, String.toList_inj] at same
  exact congrArg FsPath.mk same

/-- The last character stays, unless it is a backslash. -/
lemma getLast?_slashed {t : List Char} {c : Char} (h : c ≠ '/') :
    (slashed t).getLast? = some c ↔ t.getLast? = some c ∧ c ≠ '\\' := by
  unfold slashed
  rw [List.getLast?_map]
  cases t.getLast? with
  | none => exact ⟨nofun, fun h => nomatch h.1⟩
  | some d =>
    rw [Option.map_some, Option.some_inj, Option.some_inj]
    by_cases back : d = '\\'
    · rw [if_pos back, back]
      exact ⟨fun same => absurd same.symm h, fun ⟨same, other⟩ => absurd same.symm other⟩
    · rw [if_neg back]
      exact ⟨fun same => ⟨same, same ▸ back⟩, And.left⟩

/-! ### Base names and extensions -/

/-- The last name of a path stands at its end. -/
lemma baseChars_suffix (t : List Char) : baseChars t <:+ t := by
  unfold baseChars
  conv_rhs => rw [← List.reverse_reverse t]
  exact List.reverse_suffix.2 (List.takeWhile_prefix _)

/-- No slash stands in a base name. -/
lemma notMem_baseChars (t : List Char) : '/' ∉ baseChars t := by
  unfold baseChars
  rw [List.mem_reverse]
  intro mem
  simpa using List.mem_takeWhile_imp mem

/-- No character of a text without slashes is a slash, from whichever end one reads. -/
lemma forall_mem_reverse_ne {t : List Char} (noSlash : '/' ∉ t) :
    ∀ c ∈ t.reverse, decide (c ≠ '/') = true := by
  intro c mem
  rw [decide_eq_true_eq]
  rintro rfl
  exact noSlash (List.mem_reverse.1 mem)

/-- A text without slashes is its own base name. -/
lemma baseChars_of_notMem {t : List Char} (noSlash : '/' ∉ t) : baseChars t = t := by
  have whole : t.reverse.takeWhile (· ≠ '/') = t.reverse := by
    rw [List.takeWhile_eq_self_iff]
    exact forall_mem_reverse_ne noSlash
  unfold baseChars
  rw [whole, List.reverse_reverse]

/-- A character that stands in a text has a last place. -/
lemma exists_last {c : Char} {t : List Char} (mem : c ∈ t) :
    ∃ front tail, t = front ++ c :: tail ∧ c ∉ tail := by
  obtain ⟨tail, front, whole, none⟩ := List.eq_append_cons_of_mem (List.mem_reverse.2 mem)
  refine ⟨front.reverse, tail.reverse, ?_, mt List.mem_reverse.1 none⟩
  rw [← List.reverse_reverse t, whole]
  simp

/-- Up to the first slash, slash form keeps the characters; a backslash ends them too. -/
lemma prefix_takeWhile_slashed (t : List Char) :
    (slashed t).takeWhile (· ≠ '/') <+: t.takeWhile (· ≠ '/') := by
  unfold slashed
  induction t with
  | nil => exact List.prefix_refl _
  | cons c t ih =>
    by_cases back : c = '\\'
    · rw [List.map_cons, if_pos back]
      exact List.nil_prefix
    · rw [List.map_cons, if_neg back, List.takeWhile_cons, List.takeWhile_cons]
      split
      · exact List.cons_prefix_cons.2 ⟨rfl, ih⟩
      · exact List.nil_prefix

/-- The base name of a path in slash form is the end of the base name of the path. -/
lemma baseChars_slashed_suffix (t : List Char) : baseChars (slashed t) <:+ baseChars t := by
  unfold baseChars
  rw [List.reverse_suffix]
  unfold slashed
  rw [← List.map_reverse]
  exact prefix_takeWhile_slashed t.reverse

/-- An extension starts at the last dot, if that comes after the first character. -/
lemma extChars_eq (b : List Char) :
    (extChars b = [] ∧ '.' ∉ b.tail) ∨
      ∃ front tail, extChars b = '.' :: tail ∧ b = front ++ '.' :: tail ∧ front ≠ [] ∧
        '.' ∉ tail := by
  have whole : (b.reverse.dropWhile (· ≠ '.')).reverse ++ (b.reverse.takeWhile (· ≠ '.')).reverse =
      b := by
    rw [← List.reverse_append, List.takeWhile_append_dropWhile, List.reverse_reverse]
  have noDot : '.' ∉ (b.reverse.takeWhile (· ≠ '.')).reverse := by
    rw [List.mem_reverse]
    intro mem
    have other := List.mem_takeWhile_imp mem
    simp at other
  have dot := List.head?_dropWhile_not (· ≠ '.') b.reverse
  unfold extChars
  generalize (b.reverse.takeWhile (· ≠ '.')).reverse = tail at whole noDot
  generalize b.reverse.dropWhile (· ≠ '.') = rest at whole dot
  rw [← whole]
  match rest with
  | [] => exact .inl ⟨rfl, fun mem => noDot (List.mem_of_mem_tail mem)⟩
  | [c] => exact .inl ⟨rfl, noDot⟩
  | c :: d :: before =>
    obtain rfl : c = '.' := by simpa using dot
    refine .inr ⟨(d :: before).reverse, tail, rfl, ?_, by simp, noDot⟩
    rw [List.reverse_cons, List.append_assoc, List.singleton_append]

/-- A path has no extension if its base name has no dot after its first character. -/
lemma extname_eq_empty_iff (text : String) :
    extname text = "" ↔ '.' ∉ (baseChars text.toList).tail := by
  unfold extname
  rw [← String.toList_inj, String.toList_ofList]
  obtain ⟨none, noDot⟩ | ⟨front, tail, some, whole, ne, -⟩ := extChars_eq (baseChars text.toList)
  · rw [none]
    exact ⟨fun _ => noDot, fun _ => rfl⟩
  · rw [some, whole]
    refine ⟨nofun, fun noDot => absurd ?_ noDot⟩
    rw [List.tail_append_of_ne_nil ne]
    exact List.mem_append_right _ List.mem_cons_self

/-- A path ends as its extension does, if it has one. -/
lemma getLast?_extname {text : String} (h : extname text ≠ "") :
    (extname text).toList.getLast? = text.toList.getLast? := by
  obtain ⟨front, suffix⟩ := baseChars_suffix text.toList
  unfold extname at h ⊢
  rw [String.toList_ofList]
  obtain ⟨none, -⟩ | ⟨front', tail, some, whole, -, -⟩ := extChars_eq (baseChars text.toList)
  · rw [none] at h
    exact absurd rfl h
  · rw [some]
    rw [whole, ← List.append_assoc] at suffix
    rw [← suffix, List.getLast?_append_of_ne_nil _ (List.cons_ne_nil _ _)]

/-- A path has an extension if it has one in slash form. -/
lemma extname_ne_empty_of_normalize {text : String}
    (h : extname (normalize text).text ≠ "") : extname text ≠ "" := by
  rw [Ne, extname_eq_empty_iff, not_not] at h ⊢
  rw [toList_normalize] at h
  obtain ⟨front, whole⟩ := baseChars_slashed_suffix text.toList
  rw [← whole]
  cases front with
  | nil => exact h
  | cons c front => exact List.mem_append_right _ (List.mem_of_mem_tail h)

end PlaceholderExports.FsPath
