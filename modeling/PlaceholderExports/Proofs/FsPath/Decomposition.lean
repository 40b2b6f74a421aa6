import PlaceholderExports.Proofs.FsPath.SlashForm

/-!
# Parts of a path

Directory, base name and extension each look for the last slash or dot by themselves. They fit
together for every path: the directory and the base name are what stands before and behind the last
slash, with `.` and `/` for directories that are not written out, and the extension is the end of
the base name from its last dot on, if something stands before that. `parts_fit_together` is the
main result.
-/

namespace PlaceholderExports.FsPath

/-- What stands before a slash has no part in the base name. -/
lemma baseChars_append_slash (dir rest : List Char) :
    baseChars (dir ++ '/' :: rest) = baseChars rest := by
  unfold baseChars
  rw [List.reverse_append, List.reverse_cons, List.append_assoc, List.singleton_append,
    List.takeWhile_append]
  split_ifs with whole
  · rw [List.takeWhile_cons_of_neg (by decide), List.append_nil,
      (List.takeWhile_prefix _).eq_of_length whole]
  · rfl

/-- A path with a slash is what stands before its last one, the slash, and the base name. -/
lemma exists_last_slash {t : List Char} (slash : '/' ∈ t) :
    ∃ before, t = before ++ '/' :: baseChars t := by
  obtain ⟨before, name, rfl, noSlash⟩ := exists_last slash
  refine ⟨before, ?_⟩
  rw [baseChars_append_slash, baseChars_of_notMem noSlash]

/-- The last name of a path, as characters. -/
lemma toList_basename (path : String) : (basename path).toList = baseChars path.toList :=
  String.toList_ofList

/-- The directory of a path without slashes is `.`. -/
lemma dirname_of_notMem {path : String} (noSlash : '/' ∉ path.toList) : dirname path = "." := by
  have none : path.toList.reverse.dropWhile (· ≠ '/') = [] := by
    rw [List.dropWhile_eq_nil_iff]
    exact forall_mem_reverse_ne noSlash
  unfold dirname
  rw [none]

/-- The directory is what stands before the last slash, or that slash if nothing does. -/
lemma dirname_of_split {path : String} {before name : List Char} (noSlash : '/' ∉ name)
    (whole : path.toList = before ++ '/' :: name) :
    dirname path = if before = [] then "/" else String.ofList before := by
  have found : path.toList.reverse.dropWhile (· ≠ '/') = '/' :: before.reverse := by
    rw [whole, List.reverse_append, List.reverse_cons, List.append_assoc,
      List.dropWhile_append_of_pos (forall_mem_reverse_ne noSlash)]
    rfl
  unfold dirname
  rw [found]
  cases before using List.reverseRecOn with
  | nil => rfl
  | append_singleton front c => simp

/-- A path with a slash behind its first character is its directory, a slash and its base name. -/
lemma eq_dirname_basename {path : String} (later : '/' ∈ path.toList.tail) :
    dirname path ≠ "" ∧ path = dirname path ++ "/" ++ basename path := by
  have noSlash := notMem_baseChars path.toList
  obtain ⟨before, whole⟩ := exists_last_slash (List.mem_of_mem_tail later)
  have ne : before ≠ [] := by
    rintro rfl
    rw [whole] at later
    exact noSlash later
  have dir := dirname_of_split noSlash whole
  rw [if_neg ne] at dir
  rw [dir]
  constructor
  · rwa [Ne, ← String.toList_eq_nil_iff, String.toList_ofList]
  · rw [← String.toList_inj, String.toList_append, String.toList_append, String.toList_ofList,
      toList_basename, List.append_assoc]
    exact whole

/-- An extension that is not empty is a dot and what follows the last dot of the base name. -/
lemma exists_stem {path : String} (ne : extname path ≠ "") :
    ∃ stem tail, basename path = stem ++ extname path ∧ stem ≠ "" ∧
      extname path = "." ++ tail ∧ '.' ∉ tail.toList := by
  unfold extname at ne ⊢
  obtain ⟨none, -⟩ | ⟨stem, tail, some, whole, behind, noDot⟩ := extChars_eq (baseChars path.toList)
  · rw [none] at ne
    exact absurd rfl ne
  · have dotted : String.ofList ('.' :: tail) = "." ++ String.ofList tail := by
      rw [← String.toList_inj, String.toList_append, String.toList_ofList,
        String.toList_ofList (l := tail)]
      rfl
    rw [some]
    refine ⟨String.ofList stem, String.ofList tail, ?_, ?_, dotted, ?_⟩
    · rw [← String.toList_inj, toList_basename, String.toList_append, String.toList_ofList,
        String.toList_ofList, whole]
    · rwa [Ne, ← String.toList_eq_nil_iff, String.toList_ofList]
    · rwa [String.toList_ofList]

/-- The extension of a path is that of its base name. -/
lemma extname_basename (path : String) : extname (basename path) = extname path := by
  unfold extname
  rw [toList_basename, baseChars_of_notMem (notMem_baseChars _)]

/-- Directory, base name and extension fit together. The base name has no slash, and the path ends
in it. A path without a slash is its own base name and lies in `.`; one whose only slash comes first
is `/` and its base name; any other is its directory, a slash and its base name. The extension is
empty if and only if the base name has no dot after its first character, and otherwise it is a dot
and what follows the last one, behind a stem that is not empty. No directory in front changes base
name and extension. -/
theorem parts_fit_together (path : String) :
    ('/' ∉ (basename path).toList ∧ (basename path).toList <:+ path.toList) ∧
    ('/' ∉ path.toList → basename path = path ∧ dirname path = ".") ∧
    (path.toList.head? = some '/' → '/' ∉ path.toList.tail →
      dirname path = "/" ∧ path = "/" ++ basename path) ∧
    ('/' ∈ path.toList.tail → dirname path ≠ "" ∧ path = dirname path ++ "/" ++ basename path) ∧
    (extname path = "" ↔ '.' ∉ (basename path).toList.tail) ∧
    (extname path ≠ "" → ∃ stem tail, basename path = stem ++ extname path ∧ stem ≠ "" ∧
      extname path = "." ++ tail ∧ '.' ∉ tail.toList) ∧
    extname (basename path) = extname path ∧
    ∀ dir, basename (dir ++ "/" ++ path) = basename path ∧
      extname (dir ++ "/" ++ path) = extname path := by
  refine ⟨?base, ?bare, ?top, eq_dirname_basename, ?noExt, exists_stem, extname_basename path,
    ?dirs⟩
  case base =>
    rw [toList_basename]
    exact ⟨notMem_baseChars _, baseChars_suffix _⟩
  case bare =>
    intro none
    refine ⟨?_, dirname_of_notMem none⟩
    rw [← String.toList_inj, toList_basename, baseChars_of_notMem none]
  case top =>
    intro first only
    obtain ⟨rest, chars⟩ := List.head?_eq_some_iff.1 first
    rw [chars, List.tail_cons] at only
    refine ⟨@dirname_of_split path [] rest only chars, ?_⟩
    rw [← String.toList_inj, String.toList_append, toList_basename, chars]
    exact congrArg (List.cons '/')
      (baseChars_append_slash [] rest ▸ (baseChars_of_notMem only).symm)
  case noExt =>
    rw [extname_eq_empty_iff, toList_basename]
  case dirs =>
    intro dir
    have chars : (dir ++ "/" ++ path).toList = dir.toList ++ '/' :: path.toList := by
      rw [String.toList_append, String.toList_append, List.append_assoc]
      rfl
    unfold extname basename
    rw [chars, baseChars_append_slash]
    exact ⟨rfl, rfl⟩

/-- A file with two dots in its name, below a directory with a dot; a hidden file at the top; and a
file without a directory and without an extension. -/
theorem parts_fit_together_dotted :
    let deep := "/src.dir/a.d.ts"
    ('/' ∈ deep.toList.tail ∧ deep = dirname deep ++ "/" ++ basename deep) ∧
      (extname deep ≠ "" ∧ ∃ stem tail, basename deep = stem ++ extname deep ∧ stem ≠ "" ∧
        extname deep = "." ++ tail ∧ '.' ∉ tail.toList) ∧
      ("/.env".toList.head? = some '/' ∧ '/' ∉ "/.env".toList.tail ∧ dirname "/.env" = "/" ∧
        extname "/.env" = "") ∧
      '/' ∉ "Makefile".toList ∧ dirname "Makefile" = "." := by
  intro deep
  obtain ⟨-, -, -, below, -, ext, -, -⟩ := parts_fit_together deep
  obtain ⟨-, -, top, -, noExt, -, -, -⟩ := parts_fit_together "/.env"
  obtain ⟨-, bare, -⟩ := parts_fit_together "Makefile"
  have later : '/' ∈ deep.toList.tail := by decide
  have dotted : extname deep ≠ "" := by decide +kernel
  have first : "/.env".toList.head? = some '/' := by decide
  have only : '/' ∉ "/.env".toList.tail := by decide
  have none : '/' ∉ "Makefile".toList := by decide
  exact ⟨⟨later, (below later).2⟩, ⟨dotted, ext dotted⟩,
    ⟨first, only, (top first only).1, noExt.2 (by decide +kernel)⟩, none, (bare none).2⟩

end PlaceholderExports.FsPath
