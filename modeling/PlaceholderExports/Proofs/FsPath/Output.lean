import Mathlib
import PlaceholderExports.Proofs.FsPath.Segments

/-!
# Where scripts go

A path that is stripped of another one has the solid segments that the other one leaves, and no
separators around them (`stripPrefix?_of_prefix`). So a file has a place relative to a root: a
directory part and a name (`Place`). Its script has the stem of the name, in the same directory part
below the output directory (`outputPath_of_place`).
-/

namespace PlaceholderExports.FsPath

/-! ### Trimming -/

section Trimming

variable (segs : List (List Char))

/-- Behind some solid segments are the other solid ones. -/
lemma filter_dropSolid (k : Nat) :
    (Layout.dropSolid k segs).filter isSolid = (segs.filter isSolid).drop k := by
  induction segs generalizing k with
  | nil => cases k <;> rfl
  | cons s segs ih =>
    cases k with
    | zero => rfl
    | succ k =>
      unfold Layout.dropSolid
      by_cases h : isSolid s
      · rw [if_pos h, ih, List.filter_cons_of_pos h, List.drop_succ_cons]
      · rw [if_neg h, ih, List.filter_cons_of_neg h]

/-- What follows some solid segments is part of the segments. -/
lemma dropSolid_subset (k : Nat) : Layout.dropSolid k segs ⊆ segs := by
  induction segs generalizing k with
  | nil => cases k <;> exact List.Subset.refl _
  | cons s segs ih =>
    cases k with
    | zero => exact List.Subset.refl _
    | succ k =>
      unfold Layout.dropSolid
      split <;> exact List.subset_cons_of_subset s (ih _)

/-- Nothing solid is trimmed at the start. -/
lemma filter_trimStart : (Layout.trimStart segs).filter isSolid = segs.filter isSolid := by
  unfold Layout.trimStart
  induction segs with
  | nil => rfl
  | cons s segs ih =>
    by_cases h : isSolid s
    · rw [List.dropWhile_cons_of_neg (by simp [h])]
    · rw [List.dropWhile_cons_of_pos (by simp [h]), ih, List.filter_cons_of_neg h]

/-- What is trimmed at the start begins with a solid segment. -/
lemma isSolid_head_trimStart {s : List Char} (h : (Layout.trimStart segs).head? = some s) :
    isSolid s = true := by
  have first := List.head?_dropWhile_not (fun s => !isSolid s) segs
  unfold Layout.trimStart at h
  rw [h] at first
  simpa using first

/-- Nothing solid is trimmed at the end. -/
lemma filter_trimEnd : (Layout.trimEnd segs).filter isSolid = segs.filter isSolid := by
  have start := filter_trimStart segs.reverse
  unfold Layout.trimStart at start
  unfold Layout.trimEnd
  rw [List.filter_reverse, start, List.filter_reverse, List.reverse_reverse]

/-- What is trimmed at the end is the front of what was there. -/
lemma prefix_trimEnd : Layout.trimEnd segs <+: segs := by
  unfold Layout.trimEnd
  conv_rhs => rw [← List.reverse_reverse segs]
  exact List.reverse_prefix.2 (List.dropWhile_suffix _)

/-- What is trimmed at the end is empty or ends with a solid segment. -/
lemma trimEnd_eq : Layout.trimEnd segs = [] ∨
    ∃ front n, Layout.trimEnd segs = front ++ [n] ∧ isSolid n = true := by
  unfold Layout.trimEnd
  cases found : segs.reverse.dropWhile (fun s => !isSolid s) with
  | nil => exact .inl rfl
  | cons n front =>
    refine .inr ⟨front.reverse, n, List.reverse_cons, ?_⟩
    exact isSolid_head_trimStart segs.reverse (congrArg List.head? found)

end Trimming

/-! ### Stripping -/

/-- The lead of a path can be told from its first component. -/
lemma lead_eq_of_head? (t : List Char) :
    lead t = match (components t).head? with
      | some .root => [.root]
      | some .here => [.here]
      | _ => [] := by
  rw [components_eq]
  obtain h | h | h := lead_eq t
  · rw [h, List.nil_append, List.head?_map]
    cases (solids t).head? with
    | none => rfl
    | some s => by_cases h : s = ['.', '.'] <;> simp [Layout.solidComponent, h]
  · rw [h]
    rfl
  · rw [h]
    rfl

/-- A path that begins another one has its lead, and its solid segments come first. -/
lemma prefix_solids {base t : List Char} (ne : components base ≠ [])
    (h : components base <+: components t) : lead t = lead base ∧ solids base <+: solids t := by
  have same : lead t = lead base := by
    obtain ⟨rest, whole⟩ := h
    rw [lead_eq_of_head? t, lead_eq_of_head? base, ← whole, List.head?_append_of_ne_nil _ ne]
  rw [components_eq base, components_eq t, same, List.prefix_append_right_inj] at h
  exact ⟨same, (List.prefix_map_iff_of_injective solidComponent_injective).1 h⟩

/-- Segments with a slash behind each of them are a directory part. -/
lemma isDirPart_flatMap (front : List (List Char)) : IsDirPart (front.flatMap (· ++ ['/'])) := by
  obtain rfl | ⟨front, s, rfl⟩ := List.eq_nil_or_concat' front
  · exact .inl rfl
  · refine .inr ?_
    rw [List.flatMap_append, List.flatMap_singleton, ← List.append_assoc]
    exact List.getLast?_concat

/-- Segments that are joined end with the last of them, behind a directory part. -/
lemma intercalate_eq_dir_append (front : List (List Char)) (n : List Char) :
    ∃ dir, IsDirPart dir ∧ ['/'].intercalate (front ++ [n]) = dir ++ n :=
  ⟨_, isDirPart_flatMap front, intercalate_concat front n⟩

/-- A path is a directory part with a last segment. -/
lemma exists_dir_append (t : List Char) : ∃ dir n, t = dir ++ n ∧ IsDirPart dir ∧ '/' ∉ n := by
  obtain none | ⟨front, n, split⟩ := List.eq_nil_or_concat' (List.splitOn '/' t)
  · exact absurd none (List.splitOn_ne_nil '/' t)
  · obtain ⟨dir, closed, joined⟩ := intercalate_eq_dir_append front n
    rw [← split, List.intercalate_splitOn] at joined
    exact ⟨dir, n, joined, closed, notMem_of_mem_splitOn (by rw [split]; simp)⟩

/-- A path that ends in something else than a slash or a dot has a file name. -/
lemma fileName?_of_getLast? {t : List Char} {c : Char} (last : t.getLast? = some c)
    (noSlash : c ≠ '/') (noDot : c ≠ '.') : ∃ n, fileName? t = some n := by
  obtain ⟨dir, n, rfl, closed, nameNoSlash⟩ := exists_dir_append t
  have nameLast : n.getLast? = some c := by
    cases n with
    | nil =>
      rw [List.append_nil] at last
      obtain rfl | slash := closed
      · cases last
      · exact absurd (Option.some.inj (last.symm.trans slash)) noSlash
    | cons d n => rwa [List.getLast?_append_of_ne_nil _ (List.cons_ne_nil d n)] at last
  exact ⟨n, fileName?_dir_name closed (isName_of_getLast? nameNoSlash nameLast noDot)⟩

/-- The characters of joined segments are slashes and characters of the segments. -/
lemma mem_intercalate {segs : List (List Char)} {c : Char} (mem : c ∈ ['/'].intercalate segs) :
    c = '/' ∨ ∃ s ∈ segs, c ∈ s := by
  induction segs with
  | nil => cases mem
  | cons s segs ih =>
    by_cases last : segs = []
    · subst last
      rw [List.intercalate_singleton] at mem
      exact .inr ⟨s, List.mem_cons_self, mem⟩
    · rw [intercalate_cons s last, List.mem_append, List.mem_cons] at mem
      obtain first | slash | rest := mem
      · exact .inr ⟨s, List.mem_cons_self, first⟩
      · exact .inl slash
      · obtain slash | ⟨s', mem', found⟩ := ih rest
        · exact .inl slash
        · exact .inr ⟨s', List.mem_cons_of_mem s mem', found⟩

/-- The characters of a segment are characters of the text. -/
lemma mem_intercalate_of_mem {segs : List (List Char)} {s : List Char} {c : Char}
    (mem : s ∈ segs) (found : c ∈ s) : c ∈ ['/'].intercalate segs := by
  induction segs with
  | nil => cases mem
  | cons first segs ih =>
    by_cases last : segs = []
    · subst last
      rw [List.intercalate_singleton, ← List.mem_singleton.1 mem]
      exact found
    · rw [intercalate_cons first last, List.mem_append, List.mem_cons]
      obtain rfl | mem := List.mem_cons.1 mem
      · exact .inl found
      · exact .inr (.inr (ih mem))

/-- A text of segments begins as its first segment does, if that is not empty. -/
lemma head?_intercalate {s : List Char} (ne : s ≠ []) (segs : List (List Char)) :
    (['/'].intercalate (s :: segs)).head? = s.head? := by
  by_cases last : segs = []
  · rw [last, List.intercalate_singleton]
  · rw [intercalate_cons s last, List.head?_append_of_ne_nil _ ne]

/-- A solid segment is not empty. -/
lemma ne_nil_of_isSolid {s : List Char} (h : isSolid s = true) : s ≠ [] := by
  rintro rfl
  cases h

/-- The body of a path has no other segments than the path. -/
lemma body_subset (t : List Char) : (layout t).body ⊆ List.splitOn '/' t := by
  unfold layout
  split
  case h_1 split => rw [split]; exact List.subset_cons_self _ _
  case h_2 split => rw [split]; exact List.subset_cons_self _ _
  case h_3 => exact List.Subset.refl _

/-- The segments of a path that another path leaves. -/
def leftover (base t : List Char) : List (List Char) :=
  Layout.trimEnd (Layout.trimStart (Layout.dropSolid (solids base).length (layout t).body))

section Leftover

variable (base t : List Char)

/-- Stripping leaves the text of the segments that are left. -/
lemma stripPrefix?_eq_leftover {base t : List Char} (ne : components base ≠ [])
    (h : components base <+: components t) :
    stripPrefix? t base = some (['/'].intercalate (leftover base t)) := by
  unfold stripPrefix?
  dsimp only
  rw [filter_body]
  change (if (components base).isPrefixOf (components t) then
    if (components base).isEmpty then _ else _ else _) = _
  rw [if_pos (List.isPrefixOf_iff_prefix.2 h), if_neg (by simpa using ne)]
  rfl

/-- The solid segments that are left are those behind the solid ones of the base. -/
lemma filter_leftover :
    (leftover base t).filter isSolid = (solids t).drop (solids base).length := by
  unfold leftover
  rw [filter_trimEnd, filter_trimStart, filter_dropSolid, filter_body]

/-- What is left of a path are segments of the path. -/
lemma leftover_subset : leftover base t ⊆ List.splitOn '/' t := by
  refine List.Subset.trans (prefix_trimEnd _).subset (List.Subset.trans ?_ (body_subset t))
  exact List.Subset.trans (List.dropWhile_suffix _).subset (dropSolid_subset _ _)

/-- A segment that is left has no slash. -/
lemma notMem_of_mem_leftover {s : List Char} (mem : s ∈ leftover base t) : '/' ∉ s :=
  notMem_of_mem_splitOn (leftover_subset base t mem)

/-- The text that is left has the solid segments that are left. -/
lemma solids_intercalate_leftover :
    solids (['/'].intercalate (leftover base t)) = (solids t).drop (solids base).length := by
  rw [← filter_leftover]
  by_cases none : leftover base t = []
  · rw [none]
    rfl
  · unfold solids
    rw [List.splitOn_intercalate '/' (fun s => notMem_of_mem_leftover base t) none]

/-- What is left begins with a solid segment. -/
lemma isSolid_head_leftover {s : List Char} {more : List (List Char)}
    (left : leftover base t = s :: more) : isSolid s = true := by
  -- what is trimmed at the end is a front, so it begins as what is trimmed at the start
  obtain ⟨rest, whole⟩ := prefix_trimEnd (Layout.trimStart
    (Layout.dropSolid (solids base).length (layout t).body))
  change leftover base t ++ rest = _ at whole
  rw [left] at whole
  exact isSolid_head_trimStart _ (congrArg List.head? whole.symm)

/-- What is left has no slash in front. -/
lemma head?_intercalate_leftover : (['/'].intercalate (leftover base t)).head? ≠ some '/' := by
  cases left : leftover base t with
  | nil => exact nofun
  | cons s more =>
    rw [head?_intercalate (ne_nil_of_isSolid (isSolid_head_leftover base t left))]
    intro slash
    have mem : s ∈ leftover base t := by rw [left]; exact List.mem_cons_self
    exact notMem_of_mem_leftover base t mem (List.mem_of_mem_head? slash)

/-- What is left ends with a solid segment, if there is anything. -/
lemma intercalate_leftover_eq : ['/'].intercalate (leftover base t) = [] ∨
    ∃ dir n, ['/'].intercalate (leftover base t) = dir ++ n ∧ IsDirPart dir ∧ isSolid n = true ∧
      '/' ∉ n := by
  obtain none | ⟨back, n, split, solid⟩ := trimEnd_eq (Layout.trimStart
    (Layout.dropSolid (solids base).length (layout t).body))
  · exact .inl (congrArg ['/'].intercalate none)
  · change leftover base t = _ at split
    obtain ⟨dir, closed, joined⟩ := intercalate_eq_dir_append back n
    rw [← split] at joined
    have mem : n ∈ leftover base t := by rw [split]; exact List.mem_concat_self
    exact .inr ⟨dir, n, joined, closed, solid, notMem_of_mem_leftover base t mem⟩

/-- The characters of what is left are slashes and characters of the path. -/
lemma mem_intercalate_leftover {c : Char} (mem : c ∈ ['/'].intercalate (leftover base t)) :
    c = '/' ∨ c ∈ t := by
  obtain slash | ⟨s, mem', found⟩ := mem_intercalate mem
  · exact .inl slash
  · have inside := mem_intercalate_of_mem (leftover_subset base t mem') found
    rw [List.intercalate_splitOn] at inside
    exact .inr inside

end Leftover

/-- What is left of a path behind another one: the components that the other one leaves, without a
slash in front, and with the last of them at the end. -/
theorem stripPrefix?_of_prefix {base t : List Char} (ne : components base ≠ [])
    (h : components base <+: components t) :
    ∃ rel, stripPrefix? t base = some rel ∧
      rel.head? ≠ some '/' ∧
      components t = components base ++ (solids rel).map Layout.solidComponent ∧
      (rel = [] ∨ ∃ dir n, rel = dir ++ n ∧ IsDirPart dir ∧ isSolid n = true ∧ '/' ∉ n) ∧
      ∀ c ∈ rel, c = '/' ∨ c ∈ t := by
  obtain ⟨sameLead, front⟩ := prefix_solids ne h
  refine ⟨['/'].intercalate (leftover base t), stripPrefix?_eq_leftover ne h,
    head?_intercalate_leftover base t, ?_, intercalate_leftover_eq base t,
    fun c => mem_intercalate_leftover base t⟩
  rw [components_eq t, components_eq base, sameLead, solids_intercalate_leftover, List.append_assoc,
    ← List.map_append, List.prefix_iff_eq_append.1 front]

/-! ### Below a directory -/

/-- The text of a directory with a slash at its end; nothing stands for no directory. -/
def below (dir : List Char) : List Char :=
  if dir.isEmpty || dir.getLast? = some '/' then dir else dir ++ ['/']

/-- A relative path stands behind the text of its directory. -/
lemma append_eq_below {path : List Char} (h : path.head? ≠ some '/') (base : List Char) :
    append base path = below base ++ path := by
  unfold append below
  rw [if_neg h]
  split
  · rfl
  · rw [List.append_assoc, List.singleton_append]

/-- What stands in front of a name below a directory ends with a slash, if it is there. -/
lemma isDirPart_below (dir : List Char) : IsDirPart (below dir) := by
  unfold below
  split
  case isTrue h =>
    obtain empty | last := Bool.or_eq_true_iff.1 h
    · exact .inl (List.isEmpty_iff.1 empty)
    · exact .inr (of_decide_eq_true last)
  case isFalse => exact .inr List.getLast?_concat

/-- The text of a directory has no other characters than the directory and slashes. -/
lemma mem_below {dir : List Char} {c : Char} (mem : c ∈ below dir) : c = '/' ∨ c ∈ dir := by
  unfold below at mem
  split at mem
  · exact .inr mem
  · obtain inside | last := List.mem_append.1 mem
    · exact .inr inside
    · exact .inl (List.mem_singleton.1 last)

/-- The slash at the end of a directory adds no solid segment. -/
lemma solids_below (dir : List Char) : solids (below dir) = solids dir := by
  unfold below
  split
  · rfl
  · rw [solids_append_slash, solids_nil, List.append_nil]

/-- A directory part behind a directory part is a directory part. -/
lemma IsDirPart.append {a b : List Char} (ha : IsDirPart a) (hb : IsDirPart b) :
    IsDirPart (a ++ b) := by
  obtain rfl | last := hb
  · rwa [List.append_nil]
  · refine .inr ?_
    rw [List.getLast?_append, last]
    rfl

/-! ### Places -/

/-- The path of a file below a root, or its name if the root does not begin its path. -/
def relative (root file : List Char) : List Char :=
  (stripPrefix? file root).getD ((fileName? file).getD file)

/-- Relative to a root, a file is in a directory under a name. -/
structure Place (root file dir name : List Char) : Prop where
  relative_eq : relative root file = dir ++ name
  isDirPart : IsDirPart dir
  nested : dir.head? ≠ some '/'
  isName : IsName name

/-- The file name of a path is its last component. -/
lemma getLast?_components {t n : List Char} (h : fileName? t = some n) :
    (components t).getLast? = some (.name n) := by
  unfold fileName? at h
  split at h
  next found =>
    cases h
    exact found
  next => cases h

/-- The characters of a file name are characters of the path. -/
lemma mem_of_mem_fileName? {t n : List Char} (h : fileName? t = some n) {c : Char} (mem : c ∈ n) :
    c ∈ t := by
  have last := (fileName?_eq_some.1 h).1
  have inside := mem_intercalate_of_mem (List.mem_filter.1 (List.mem_of_getLast? last)).1 mem
  rwa [List.intercalate_splitOn] at inside

/-- A file whose path the root does not begin has its name for a place. -/
lemma place_elsewhere {root file n : List Char} (named : fileName? file = some n)
    (h : ¬ components root <+: components file) : Place root file [] n := by
  have none : stripPrefix? file root = none := by
    unfold stripPrefix?
    exact if_neg fun front => h (List.isPrefixOf_iff_prefix.1 front)
  refine ⟨?_, .inl rfl, nofun, isName_of_fileName? named⟩
  unfold relative
  rw [none, named]
  rfl

/-- A file whose path the root begins, and that has a name behind it, has the rest of its path for a
place. -/
lemma exists_place_inside {root file n : List Char} (ne : components root ≠ [])
    (named : fileName? file = some n) (h : components root <+: components file)
    (inside : ∀ rel, components file = components root ++ rel → rel ≠ []) :
    ∃ dir name, Place root file dir name ∧ (∀ c ∈ dir ++ name, c = '/' ∨ c ∈ file) ∧
      components file = components root ++ (solids dir ++ [name]).map Layout.solidComponent := by
  obtain ⟨rel, stripped, head, rest, last, chars⟩ := stripPrefix?_of_prefix ne h
  obtain rfl | ⟨dir, name, rfl, closed, solid, noSlash⟩ := last
  · exact absurd rfl (inside _ rest)
  · have whole : solids (dir ++ name) = solids dir ++ [name] := by
      rw [solids_dir_append closed]
      unfold solids
      rw [List.splitOn_eq_singleton noSlash, List.filter_cons_of_pos solid, List.filter_nil]
    rw [whole] at rest
    -- the last segment behind the root is the file name
    have notParent : name ≠ ['.', '.'] := by
      rintro rfl
      have last := getLast?_components named
      rw [rest, List.map_append, ← List.append_assoc, List.map_singleton,
        List.getLast?_concat] at last
      cases last
    have nested : dir.head? ≠ some '/' := by
      intro slash
      obtain ⟨dir, rfl⟩ := List.head?_eq_some_iff.1 slash
      exact head rfl
    refine ⟨dir, name, ⟨?_, closed, nested, ⟨solid, notParent, noSlash⟩⟩, chars, rest⟩
    unfold relative
    rw [stripped, Option.getD_some]

/-- A file with a name has a place, unless the root is all of its path. If the root begins its path,
the place holds the components behind the root; otherwise it holds the name alone. -/
theorem exists_place {root file : List Char} (ne : components root ≠ [])
    (named : ∃ n, fileName? file = some n)
    (inside : ∀ rel, components file = components root ++ rel → rel ≠ []) :
    ∃ dir name, Place root file dir name ∧ (∀ c ∈ dir ++ name, c = '/' ∨ c ∈ file) ∧
      (components file = components root ++ (solids dir ++ [name]).map Layout.solidComponent ∨
        dir = []) := by
  obtain ⟨n, named⟩ := named
  by_cases h : components root <+: components file
  · obtain ⟨dir, name, place, chars, rest⟩ := exists_place_inside ne named h inside
    exact ⟨dir, name, place, chars, .inl rest⟩
  · exact ⟨[], n, place_elsewhere named h, fun c mem => .inr (mem_of_mem_fileName? named mem),
      .inr rfl⟩

/-- A stem has no characters that the name has not. -/
lemma notMem_stem {c : Char} {n : List Char} (h : c ∉ n) : c ∉ stem n :=
  fun mem => h ((prefix_stem n).subset mem)

/-- The stem of a name with the extension of scripts is a name. -/
lemma IsName.script {n : List Char} (h : IsName n) : IsName (stem n ++ ['.', 'j', 's']) :=
  isName_append (c := 's') (notMem_stem h.noSlash) (by decide) rfl (by decide)

/-- The script of a file is below the output directory in the directory of its place, under the stem
of its name. -/
theorem outputPath_of_place {root file : String} {dir name : List Char}
    (p : Place root.toList file.toList dir name) (outDir : String) :
    outputPath root outDir file =
      String.ofList (below outDir.toList ++ dir ++ (stem name ++ ['.', 'j', 's'])) := by
  have head : (dir ++ name).head? ≠ some '/' := by
    cases dir with
    | nil => exact fun slash => p.isName.noSlash (List.mem_of_mem_head? slash)
    | cons c dir => exact p.nested
  unfold outputPath
  dsimp only
  change String.ofList (withExtension (append _ (relative root.toList file.toList)) _) = _
  rw [p.relative_eq, append_eq_below head, ← List.append_assoc,
    withExtension_dir_name ((isDirPart_below _).append p.isDirPart) p.isName]

end PlaceholderExports.FsPath
