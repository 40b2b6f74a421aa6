import PlaceholderExports.Proofs.FsPath.Output
import PlaceholderExports.Proofs.FsPath.SlashForm

/-!
# The layout of scripts

A file name is its stem and its extension (`stem_append_extChars`). The script of a file behind the
root keeps the directories that lead there and the stem of the name; the script of any other file is
directly below the output directory, under the stem of the name. So behind the root two files share
a script exactly if they differ in the extension at most. `outputPath_layout` is the main result.

It holds for every root and every output directory, relative and empty ones too: a path that begins
with an ordinary name has no lead of its own (`lead_eq_nil_iff`), so it keeps its components behind
any other path (`components_below_append`).
-/

namespace PlaceholderExports.FsPath

/-! ### Stems and extensions -/

/-- Without a dot after the first character, the stem is the whole name. -/
lemma stem_of_notMem {n : List Char} (h : '.' ∉ n.tail) : stem n = n := by
  have whole := List.takeWhile_append_dropWhile (p := (· ≠ '.')) (l := n.reverse)
  have dot := List.head?_dropWhile_not (· ≠ '.') n.reverse
  unfold stem
  split
  · rfl
  · rfl
  · next c before notSingle found =>
    rw [found] at whole dot
    have dot : c = '.' := by simpa using dot
    have ne : before.reverse ≠ [] := by
      rw [Ne, List.reverse_eq_nil_iff]
      rintro rfl
      exact notSingle rfl
    refine absurd ?_ h
    rw [← List.reverse_reverse n, ← whole, List.reverse_append, List.reverse_cons,
      List.append_assoc, List.tail_append_of_ne_nil ne, dot]
    exact List.mem_append_right _ List.mem_cons_self

/-- The last dot ends the stem, if something stands before it. -/
lemma stem_append {front tail : List Char} (ne : front ≠ []) (noDot : '.' ∉ tail) :
    stem (front ++ '.' :: tail) = front := by
  have found : (front ++ '.' :: tail).reverse.dropWhile (· ≠ '.') = '.' :: front.reverse := by
    rw [List.reverse_append, List.reverse_cons, List.append_assoc, List.dropWhile_append_of_pos]
    · rfl
    · intro c mem
      rw [decide_eq_true_eq]
      rintro rfl
      exact noDot (List.mem_reverse.1 mem)
  unfold stem
  rw [found]
  split
  · next none => cases none
  · next single => exact absurd (List.reverse_eq_nil_iff.1 (List.cons.inj single).2) ne
  · next before _ same => rw [← (List.cons.inj same).2, List.reverse_reverse]

/-- A name is its stem, or the stem with a dot and what follows the last dot. -/
lemma stem_eq (n : List Char) :
    (stem n = n ∧ '.' ∉ n.tail) ∨
      ∃ ext, n = stem n ++ '.' :: ext ∧ stem n ≠ [] ∧ '.' ∉ ext := by
  obtain ⟨-, noDot⟩ | ⟨front, ext, -, rfl, ne, noDot⟩ := extChars_eq n
  · exact .inl ⟨stem_of_notMem noDot, noDot⟩
  · rw [stem_append ne noDot]
    exact .inr ⟨ext, rfl, ne, noDot⟩

/-- A name is its stem and then its extension. -/
lemma stem_append_extChars (n : List Char) : stem n ++ extChars n = n := by
  obtain ⟨none, noDot⟩ | ⟨front, ext, some, whole, ne, noDot⟩ := extChars_eq n
  · rw [none, stem_of_notMem noDot, List.append_nil]
  · rw [some, whole, stem_append ne noDot]

/-- Names have the same stem if they are one text with their extensions behind it. -/
lemma stem_eq_iff {n n' : List Char} :
    stem n = stem n' ↔ ∃ front, n = front ++ extChars n ∧ n' = front ++ extChars n' := by
  constructor
  · intro same
    exact ⟨stem n, (stem_append_extChars n).symm, by rw [same, stem_append_extChars]⟩
  · rintro ⟨front, whole, whole'⟩
    have first := List.append_cancel_right ((stem_append_extChars n).trans whole)
    have second := List.append_cancel_right ((stem_append_extChars n').trans whole')
    rw [first, second]

/-- The name of the script of a name. -/
def scriptName (n : List Char) : List Char := stem n ++ ['.', 'j', 's']

/-! ### Paths without a lead -/

/-- A path has no lead if it is empty or begins with a solid segment. -/
lemma lead_eq_nil_iff {t : List Char} :
    lead t = [] ↔ t = [] ∨ ∃ s more, List.splitOn '/' t = s :: more ∧ isSolid s = true := by
  constructor
  · intro noLead
    cases found : List.splitOn '/' t with
    | nil => exact absurd found (List.splitOn_ne_nil '/' t)
    | cons s more =>
      unfold lead layout at noLead
      rw [found] at noLead
      by_cases empty : s = []
      · subst empty
        cases more with
        | nil =>
          refine .inl ?_
          rw [← @List.intercalate_splitOn _ t _ _ '/', found]
          rfl
        | cons next more => cases noLead
      · by_cases dot : s = ['.']
        · subst dot
          cases noLead
        · exact .inr ⟨s, more, rfl, by simp [isSolid, empty, dot]⟩
  · rintro (rfl | ⟨s, more, found, solid⟩)
    · rfl
    · unfold lead layout
      rw [found]
      split
      case h_1 split =>
        obtain ⟨rfl, -⟩ := List.cons.inj split
        cases solid
      case h_2 split =>
        obtain ⟨rfl, -⟩ := List.cons.inj split
        cases solid
      case h_3 => rfl

/-- Without a lead all segments are in the body. -/
lemma layout_of_lead_nil {t : List Char} (noLead : lead t = []) :
    layout t = ⟨false, false, List.splitOn '/' t⟩ := by
  unfold lead at noLead
  unfold layout at noLead ⊢
  split
  case h_1 split => rw [split] at noLead; cases noLead
  case h_2 split => rw [split] at noLead; cases noLead
  case h_3 => rfl

/-- A lead is told from the first character and the first segment. -/
lemma lead_eq_ite (t : List Char) :
    lead t = if t.head? = some '/' then [.root]
      else if (List.splitOn '/' t).head? = some ['.'] then [.here] else [] := by
  have whole := @List.intercalate_splitOn _ t _ _ '/'
  unfold lead layout
  split
  case h_1 next more split =>
    rw [split, intercalate_cons [] (List.cons_ne_nil _ _)] at whole
    rw [← whole]
    rfl
  case h_2 body split =>
    rw [split] at whole
    have first : t.head? = some '.' := by
      rw [← whole, head?_intercalate (List.cons_ne_nil _ _)]
      rfl
    rw [first, split]
    rfl
  case h_3 notRooted notDotted =>
    have noSlash : t.head? ≠ some '/' := by
      intro slash
      obtain ⟨rest, rfl⟩ := List.head?_eq_some_iff.1 slash
      obtain ⟨next, more, found⟩ := List.exists_cons_of_ne_nil (List.splitOn_ne_nil '/' rest)
      exact notRooted next more (congrArg (List.cons []) found)
    have noDot : (List.splitOn '/' t).head? ≠ some ['.'] := by
      intro dot
      obtain ⟨body, found⟩ := List.head?_eq_some_iff.1 dot
      exact notDotted body found
    rw [if_neg noSlash, if_neg noDot]
    rfl

/-- The lead of a directory that is not empty is the lead of every path below it. -/
lemma lead_below_append {base : List Char} (ne : base ≠ []) (rest : List Char) :
    lead (below base ++ rest) = lead base := by
  obtain ⟨front, ends, first, head⟩ : ∃ front, below base = front ++ ['/'] ∧
      (List.splitOn '/' base).head? = (List.splitOn '/' front).head? ∧
        (front ++ ['/']).head? = base.head? := by
    unfold below
    split
    case isTrue h =>
      obtain empty | last := Bool.or_eq_true_iff.1 h
      · exact absurd (List.isEmpty_iff.1 empty) ne
      · obtain ⟨front, rfl⟩ := List.getLast?_eq_some_iff.1 (of_decide_eq_true last)
        refine ⟨front, rfl, ?_, rfl⟩
        rw [List.splitOn_append_cons_self,
          List.head?_append_of_ne_nil _ (List.splitOn_ne_nil '/' front)]
    case isFalse => exact ⟨base, rfl, rfl, List.head?_append_of_ne_nil _ ne⟩
  rw [lead_eq_ite, lead_eq_ite base, ends, List.append_assoc, List.singleton_append,
    List.splitOn_append_cons_self, List.head?_append_of_ne_nil _ (List.splitOn_ne_nil '/' front),
    first, ← head]
  cases front <;> rfl

/-- A path without a lead keeps its components behind any other path. -/
lemma components_below_append (base : List Char) {rest : List Char} (noLead : lead rest = []) :
    components (below base ++ rest) =
      components base ++ (solids rest).map Layout.solidComponent := by
  rw [components_eq, components_eq base, solids_dir_append (isDirPart_below base), solids_below,
    List.map_append, List.append_assoc]
  by_cases empty : base = []
  · subst empty
    change lead rest ++ _ = _
    rw [noLead]
    rfl
  · rw [lead_below_append empty]

/-! ### Files behind the root -/

/-- A solid segment whose component is a name is that name. -/
lemma isName_of_solidComponent {s n : List Char} (solid : isSolid s = true) (noSlash : '/' ∉ s)
    (same : Layout.solidComponent s = .name n) : s = n ∧ IsName n := by
  unfold Layout.solidComponent at same
  split_ifs at same with parent
  cases same
  exact ⟨rfl, solid, parent, noSlash⟩

/-- Segments whose components are ordinary names are these names. -/
lemma eq_of_map_solidComponent {segs names : List (List Char)}
    (solid : ∀ s ∈ segs, isSolid s = true ∧ '/' ∉ s)
    (same : segs.map Layout.solidComponent = names.map .name) :
    segs = names ∧ ∀ n ∈ names, IsName n := by
  induction segs generalizing names with
  | nil =>
    obtain rfl := List.map_eq_nil_iff.1 same.symm
    exact ⟨rfl, nofun⟩
  | cons s segs ih =>
    obtain ⟨n, names, rfl, first, rest⟩ := List.map_eq_cons_iff.1 same.symm
    obtain ⟨rfl, name⟩ := isName_of_solidComponent (solid s List.mem_cons_self).1
      (solid s List.mem_cons_self).2 first.symm
    obtain ⟨rfl, others⟩ := ih (fun s' mem => solid s' (List.mem_cons_of_mem s mem)) rest.symm
    exact ⟨rfl, List.forall_mem_cons.2 ⟨name, others⟩⟩

/-- The components of names are the names. -/
lemma map_solidComponent {names : List (List Char)} (h : ∀ n ∈ names, IsName n) :
    names.map Layout.solidComponent = names.map .name :=
  List.map_congr_left fun n mem => if_neg (h n mem).notParent

section Inside

variable {root file : List Char} {names : List (List Char)}
  (inside : components file = components root ++ names.map .name)

include inside

/-- Behind a root come the names that its path leaves. -/
lemma solids_inside (ne : names ≠ []) :
    lead file = lead root ∧ solids file = solids root ++ names ∧ ∀ n ∈ names, IsName n := by
  have same : lead file = lead root ∧ solids root <+: solids file := by
    by_cases empty : components root = []
    · rw [components_eq root, List.append_eq_nil_iff, List.map_eq_nil_iff] at empty
      rw [components_eq root, empty.1, empty.2, List.map_nil, List.nil_append, List.nil_append]
        at inside
      obtain ⟨n, names, rfl⟩ := List.exists_cons_of_ne_nil ne
      refine ⟨?_, by rw [empty.2]; exact List.nil_prefix⟩
      rw [lead_eq_of_head?, inside, empty.1]
      rfl
    · exact prefix_solids empty ⟨_, inside.symm⟩
  obtain ⟨sameLead, rest, whole⟩ := same
  have solid : ∀ s ∈ rest, isSolid s = true ∧ '/' ∉ s := by
    intro s mem
    have mem : s ∈ solids file := by rw [← whole]; exact List.mem_append_right _ mem
    obtain ⟨inSegments, solid⟩ := List.mem_filter.1 mem
    exact ⟨solid, notMem_of_mem_splitOn inSegments⟩
  rw [components_eq, components_eq root, sameLead, ← whole, List.map_append, ← List.append_assoc]
    at inside
  obtain ⟨rfl, isName⟩ := eq_of_map_solidComponent solid (List.append_cancel_left inside)
  exact ⟨sameLead, whole.symm, isName⟩

/-- Relative to the root, a file is at the segments that the root leaves. -/
lemma relative_inside (ne : names ≠ []) :
    relative root file = ['/'].intercalate (leftover root file) := by
  obtain ⟨sameLead, solid, -⟩ := solids_inside inside ne
  have front : components root <+: components file := ⟨_, inside.symm⟩
  unfold relative
  by_cases none : components root = []
  · have empty := none
    rw [components_eq root, List.append_eq_nil_iff, List.map_eq_nil_iff] at empty
    rw [empty.1] at sameLead
    rw [empty.2, List.nil_append] at solid
    obtain rfl | ⟨s, more, found, first⟩ := lead_eq_nil_iff.1 sameLead
    · exact absurd solid.symm ne
    -- nothing is cut off, and the path has no separators in front
    have stripped : stripPrefix? file root =
        some { layout file with body := Layout.trimEnd (layout file).body }.text := by
      unfold stripPrefix?
      dsimp only
      change (if (components root).isPrefixOf (components file) then
        if (components root).isEmpty then _ else _ else _) = _
      rw [if_pos (List.isPrefixOf_iff_prefix.2 front), if_pos (List.isEmpty_iff.2 none)]
    have uncut :
        Layout.trimStart (Layout.dropSolid 0 (List.splitOn '/' file)) = List.splitOn '/' file := by
      have all : Layout.dropSolid 0 (List.splitOn '/' file) = List.splitOn '/' file := by
        rw [found]
        rfl
      unfold Layout.trimStart
      rw [all, found, List.dropWhile_cons_of_neg (by simp [first])]
    unfold leftover
    rw [stripped, layout_of_lead_nil sameLead, empty.2, List.length_nil, uncut]
    rfl
  · rw [stripPrefix?_eq_leftover none front, Option.getD_some]

/-- The script of a file behind the root: the segments that the root leaves, with the stem of the
last one. -/
lemma outputPath_inside (ne : names ≠ []) : ∃ front n, leftover root file = front ++ [n] ∧
    names = front.filter isSolid ++ [n] ∧
    ∀ outDir, withExtension (append outDir (relative root file)) ['j', 's'] =
      below outDir ++ ['/'].intercalate (front ++ [scriptName n]) := by
  obtain ⟨-, solid, isName⟩ := solids_inside inside ne
  have filtered : (leftover root file).filter isSolid = names := by
    rw [filter_leftover, solid, List.drop_left]
  obtain none | ⟨front, n, split, lastSolid⟩ := trimEnd_eq (Layout.trimStart
    (Layout.dropSolid (solids root).length (layout file).body))
  · change leftover root file = [] at none
    rw [none] at filtered
    exact absurd filtered.symm ne
  · change leftover root file = _ at split
    rw [split, List.filter_append, List.filter_cons_of_pos lastSolid] at filtered
    refine ⟨front, n, split, filtered.symm, fun outDir => ?_⟩
    have head := head?_intercalate_leftover root file
    have name : IsName n := isName n (by rw [← filtered]; exact List.mem_concat_self)
    rw [relative_inside inside ne, append_eq_below head, split, intercalate_concat,
      intercalate_concat, ← List.append_assoc,
      withExtension_dir_name ((isDirPart_below outDir).append (isDirPart_flatMap front)) name,
      List.append_assoc]
    rfl

/-- The script of a file behind the root has the components of the output directory and behind them
those of the file, with the stem of its name. -/
lemma components_outputPath_inside {dirs : List (List Char)} {n : List Char}
    (last : names = dirs ++ [n]) (outDir : List Char) :
    components (withExtension (append outDir (relative root file)) ['j', 's']) =
      components outDir ++ (dirs ++ [scriptName n]).map .name := by
  have ne : names ≠ [] := by
    rw [last]
    exact List.append_ne_nil_of_right_ne_nil _ (List.cons_ne_nil _ _)
  obtain ⟨-, -, isName⟩ := solids_inside inside ne
  obtain ⟨front, n', split, whole, path⟩ := outputPath_inside inside ne
  obtain ⟨rfl, same⟩ := List.append_inj' (whole.symm.trans last) rfl
  obtain rfl := List.singleton_inj.1 same
  have script : IsName (scriptName n') :=
    (isName n' (by rw [whole]; exact List.mem_concat_self)).script
  have segs : List.splitOn '/' (['/'].intercalate (front ++ [scriptName n'])) =
      front ++ [scriptName n'] := by
    refine List.splitOn_intercalate '/' ?_
      (List.append_ne_nil_of_right_ne_nil _ (List.cons_ne_nil _ _))
    intro s mem
    obtain mem | mem := List.mem_append.1 mem
    · exact notMem_of_mem_leftover root file (by rw [split]; exact List.mem_append_left _ mem)
    · rw [List.mem_singleton.1 mem]
      exact script.noSlash
  have noLead : lead (['/'].intercalate (front ++ [scriptName n'])) = [] := by
    refine lead_eq_nil_iff.2 (.inr ?_)
    rw [segs]
    cases front with
    | nil => exact ⟨_, [], rfl, script.solid⟩
    | cons s front => exact ⟨s, _, rfl, isSolid_head_leftover root file split⟩
  have names : ∀ s ∈ front.filter isSolid ++ [scriptName n'], IsName s := by
    intro s mem
    obtain mem | mem := List.mem_append.1 mem
    · exact isName s (by rw [whole]; exact List.mem_append_left _ mem)
    · rw [List.mem_singleton.1 mem]
      exact script
  rw [path, components_below_append outDir noLead, ← map_solidComponent names]
  unfold solids
  rw [segs, List.filter_append, List.filter_cons_of_pos script.solid, List.filter_nil]

end Inside

/-! ### Files written behind the root -/

/-- Nothing but solid segments is left behind as many of them as there are in front. -/
lemma trimStart_dropSolid (front : List (List Char)) {names : List (List Char)}
    (solid : ∀ n ∈ names, isSolid n = true) :
    Layout.trimStart (Layout.dropSolid (front.filter isSolid).length (front ++ names)) = names := by
  induction front with
  | nil =>
    cases names with
    | nil => rfl
    | cons n names =>
      have first := solid n List.mem_cons_self
      exact List.dropWhile_cons_of_neg (by simp [first])
  | cons s front ih =>
    rw [List.cons_append]
    by_cases h : isSolid s
    · rw [List.filter_cons_of_pos h, List.length_cons, Layout.dropSolid, if_pos h, ih]
    · rw [List.filter_cons_of_neg h]
      cases count : (front.filter isSolid).length with
      | zero =>
        rw [count] at ih
        have all : ∀ segs, Layout.dropSolid 0 segs = segs := fun segs => by cases segs <;> rfl
        rw [all] at ih ⊢
        unfold Layout.trimStart at ih ⊢
        rw [List.dropWhile_cons_of_pos (by simp [h]), ih]
      | succ k => rw [Layout.dropSolid, if_neg h, ← count, ih]

section Written

variable {names : List (List Char)} (ne : names ≠ []) (isName : ∀ n ∈ names, IsName n)

include ne isName

/-- Names that are written with slashes between them are split into the names. -/
lemma splitOn_names : List.splitOn '/' (['/'].intercalate names) = names :=
  List.splitOn_intercalate '/' (fun n mem => (isName n mem).noSlash) ne

/-- A path of names below a directory has the components of the directory and then the names. -/
lemma components_below_names (base : List Char) :
    components (below base ++ ['/'].intercalate names) = components base ++ names.map .name := by
  have segs := splitOn_names ne isName
  have noLead : lead (['/'].intercalate names) = [] := by
    obtain ⟨n, more, rfl⟩ := List.exists_cons_of_ne_nil ne
    exact lead_eq_nil_iff.2 (.inr ⟨n, more, segs, (isName n List.mem_cons_self).solid⟩)
  rw [components_below_append base noLead, ← map_solidComponent isName]
  unfold solids
  rw [segs, List.filter_eq_self.2 fun n mem => (isName n mem).solid]

/-- Names behind a root are the last segments of the layout. -/
lemma body_below_names (root : List Char) :
    ∃ front, (layout (below root ++ ['/'].intercalate names)).body = front ++ names := by
  have segs := splitOn_dir_append (isDirPart_below root) (['/'].intercalate names)
  rw [splitOn_names ne isName] at segs
  generalize (List.splitOn '/' (below root)).dropLast = front at segs
  obtain ⟨n, more, rfl⟩ := List.exists_cons_of_ne_nil ne
  have solid := (isName n List.mem_cons_self).solid
  -- the lead is not solid, so it is none of the names
  have behind : ∀ {s rest},
      List.splitOn '/' (below root ++ ['/'].intercalate (n :: more)) = s :: rest →
      isSolid s = false → ∃ front', rest = front' ++ n :: more := by
    intro s rest split notSolid
    rw [segs] at split
    cases front with
    | nil =>
      obtain ⟨rfl, -⟩ := List.cons.inj split
      exact absurd (solid.symm.trans notSolid) (by decide)
    | cons s' front => exact ⟨front, (List.cons.inj split).2.symm⟩
  unfold layout
  split
  case h_1 split => exact behind split rfl
  case h_2 split => exact behind split rfl
  case h_3 => exact ⟨front, segs⟩

/-- The root leaves the names that are written behind it. -/
lemma leftover_below_names (root : List Char) :
    leftover root (below root ++ ['/'].intercalate names) = names := by
  obtain ⟨front, body⟩ := body_below_names ne isName root
  have solid : ∀ n ∈ names, isSolid n = true := fun n mem => (isName n mem).solid
  have before : front.filter isSolid = solids root := by
    have whole := filter_body (below root ++ ['/'].intercalate names)
    rw [body, List.filter_append, List.filter_eq_self.2 solid,
      (solids_inside (components_below_names ne isName root) ne).2.1] at whole
    exact List.append_cancel_right whole
  obtain none | ⟨more, n, rfl⟩ := List.eq_nil_or_concat' names
  · exact absurd none ne
  · unfold leftover
    rw [body, ← before, trimStart_dropSolid front solid,
      trimEnd_concat more (solid n List.mem_concat_self)]

end Written

/-! ### Scripts -/

/-- The path of some names below a directory, as it is written. -/
def namesBelow (dir : String) (names : List (List Char)) : String :=
  String.ofList (below dir.toList ++ ['/'].intercalate names)

/-- The path of a script is that of its file relative to the root, below the output directory, with
the extension of scripts. -/
lemma toList_outputPath (root outDir file : String) :
    (outputPath root outDir file).toList =
      withExtension (append outDir.toList (relative root.toList file.toList)) ['j', 's'] :=
  String.toList_ofList

/-- The script of a file that is not below the root is directly in the output directory. -/
lemma outputPath_elsewhere {root file : String} {n : List Char}
    (elsewhere : ¬ components root.toList <+: components file.toList)
    (last : (components file.toList).getLast? = some (.name n)) (outDir : String) :
    outputPath root outDir file = namesBelow outDir [scriptName n] := by
  have named : fileName? file.toList = some n := by
    unfold fileName?
    rw [last]
  rw [outputPath_of_place (place_elsewhere named elsewhere), List.append_nil]
  unfold namesBelow scriptName
  rw [List.intercalate_singleton]

/-- The script of a file below the root is at the same place below the output directory. -/
lemma outputPath_namesBelow (root outDir : String) {dirs : List (List Char)} {n : List Char}
    (isName : ∀ s ∈ dirs ++ [n], IsName s) :
    outputPath root outDir (namesBelow root (dirs ++ [n])) =
      namesBelow outDir (dirs ++ [scriptName n]) := by
  have ne : dirs ++ [n] ≠ [] := List.append_ne_nil_of_right_ne_nil _ (List.cons_ne_nil _ _)
  obtain ⟨front, n', split, -, path⟩ :=
    outputPath_inside (components_below_names ne isName root.toList) ne
  rw [leftover_below_names ne isName] at split
  obtain ⟨rfl, same⟩ := List.append_inj' split rfl
  obtain rfl := List.singleton_inj.1 same
  rw [← String.toList_inj, toList_outputPath]
  unfold namesBelow
  rw [String.toList_ofList, String.toList_ofList, path]

/-- Names below a directory can be told from their components. -/
lemma scripts_eq_iff {base : List Component} {dirs dirs' : List (List Char)} {n n' : List Char} :
    base ++ (dirs ++ [scriptName n]).map .name = base ++ (dirs' ++ [scriptName n']).map .name ↔
      dirs = dirs' ∧ stem n = stem n' := by
  have injective : Function.Injective Component.name := fun s s' same => Component.name.inj same
  rw [List.append_cancel_left_eq, injective.list_map.eq_iff]
  constructor
  · intro same
    obtain ⟨dirs, last⟩ := List.append_inj' same rfl
    exact ⟨dirs, List.append_cancel_right (List.singleton_inj.1 last)⟩
  · rintro ⟨rfl, stems⟩
    unfold scriptName
    rw [stems]

/-- The layout of scripts. A file whose path is the root and one or more ordinary names has its
script below the output directory, in the same directories and under the stem of its name; a file
with an ordinary name that does not lie behind the root has it directly below the output directory.
Behind the root two files have the same script exactly if their directories and the stems of their
names are the same, that is, if they differ in the extension at most. -/
theorem outputPath_layout (root outDir : String) :
    (∀ file dirs n, components file.toList = components root.toList ++ (dirs ++ [n]).map .name →
      components (outputPath root outDir file).toList =
        components outDir.toList ++ (dirs ++ [scriptName n]).map .name) ∧
      (∀ dirs n, (∀ s ∈ dirs ++ [n], IsName s) →
        outputPath root outDir (namesBelow root (dirs ++ [n])) =
          namesBelow outDir (dirs ++ [scriptName n])) ∧
      (∀ file n, ¬ components root.toList <+: components file.toList →
        (components file.toList).getLast? = some (.name n) →
          outputPath root outDir file = namesBelow outDir [scriptName n]) ∧
      (∀ file file' dirs dirs' n n',
        components file.toList = components root.toList ++ (dirs ++ [n]).map .name →
        components file'.toList = components root.toList ++ (dirs' ++ [n']).map .name →
          (components (outputPath root outDir file).toList =
              components (outputPath root outDir file').toList ↔
            dirs = dirs' ∧ stem n = stem n')) ∧
      (∀ dirs dirs' n n', (∀ s ∈ dirs ++ [n], IsName s) → (∀ s ∈ dirs' ++ [n'], IsName s) →
        (outputPath root outDir (namesBelow root (dirs ++ [n])) =
            outputPath root outDir (namesBelow root (dirs' ++ [n'])) ↔
          dirs = dirs' ∧ stem n = stem n')) ∧
      (∀ n n', stem n = stem n' ↔ ∃ front, n = front ++ extChars n ∧ n' = front ++ extChars n') ∧
      ∀ n, (stem n = n ∧ '.' ∉ n.tail) ∨
        ∃ ext, n = stem n ++ '.' :: ext ∧ stem n ≠ [] ∧ '.' ∉ ext := by
  have inside : ∀ file dirs n,
      components file.toList = components root.toList ++ (dirs ++ [n]).map .name →
        components (outputPath root outDir file).toList =
          components outDir.toList ++ (dirs ++ [scriptName n]).map .name := by
    intro file dirs n behind
    rw [toList_outputPath]
    exact components_outputPath_inside behind rfl outDir.toList
  have written : ∀ dirs n, (∀ s ∈ dirs ++ [n], IsName s) →
      components (namesBelow root (dirs ++ [n])).toList =
        components root.toList ++ (dirs ++ [n]).map .name := by
    intro dirs n isName
    unfold namesBelow
    rw [String.toList_ofList]
    exact components_below_names (List.append_ne_nil_of_right_ne_nil _ (List.cons_ne_nil _ _))
      isName _
  refine ⟨inside, fun dirs n => outputPath_namesBelow root outDir,
    fun file n elsewhere last => outputPath_elsewhere elsewhere last outDir, ?shared, ?texts,
    fun n n' => stem_eq_iff, stem_eq⟩
  case shared =>
    intro file file' dirs dirs' n n' behind behind'
    rw [inside file dirs n behind, inside file' dirs' n' behind', scripts_eq_iff]
  case texts =>
    intro dirs dirs' n n' isName isName'
    constructor
    · intro same
      have components := congrArg (fun path => components path.toList) same
      rw [inside _ dirs n (written dirs n isName), inside _ dirs' n' (written dirs' n' isName')]
        at components
      exact scripts_eq_iff.1 components
    · rintro ⟨rfl, stems⟩
      rw [outputPath_namesBelow root outDir isName, outputPath_namesBelow root outDir isName']
      unfold scriptName
      rw [stems]

/-- Files behind a root with a dot in the stem, with nothing but an extension, and with separators
that do not count, and a file elsewhere. -/
theorem outputPath_layout_dotted_names :
    let src := "src".toList
    let file := "/p//src/./a.b.ts"
    components file.toList = components "/p".toList ++ ([src] ++ ["a.b.ts".toList]).map .name ∧
      components (outputPath "/p" "out" file).toList =
        components "out".toList ++ ([src] ++ ["a.b.js".toList]).map .name ∧
      outputPath "/p" "out" "/p/src/.env" = "out/src/.env.js" ∧
      ¬ components "/p".toList <+: components "/q/a.ts".toList ∧
      outputPath "/p" "out" "/q/a.ts" = "out/a.js" ∧
      components (outputPath "/p" "out" file).toList =
        components (outputPath "/p" "out" "/p/src/a.b.tsx").toList ∧
      outputPath "/p" "out" "/p/src/a.b.ts" ≠ outputPath "/p" "out" "/p/src/a.ts" := by
  intro src file
  have inside : components file.toList =
      components "/p".toList ++ ([src] ++ ["a.b.ts".toList]).map .name := by decide +kernel
  have inside' : components "/p/src/a.b.tsx".toList =
      components "/p".toList ++ ([src] ++ ["a.b.tsx".toList]).map .name := by decide +kernel
  have isName : ∀ n ∈ ["a.b.ts".toList, "a.ts".toList, ".env".toList],
      ∀ s ∈ [src] ++ [n], IsName s := by decide +kernel
  have elsewhere : ¬ components "/p".toList <+: components "/q/a.ts".toList := by decide +kernel
  obtain ⟨layout, texts, outside, shared, sharedText, -, -⟩ := outputPath_layout "/p" "out"
  refine ⟨inside, layout file [src] _ inside, ?_, elsewhere, ?_, ?_, ?_⟩
  · exact texts [src] ".env".toList (isName _ (by simp))
  · exact outside "/q/a.ts" "a.ts".toList elsewhere (by decide +kernel)
  · exact (shared file "/p/src/a.b.tsx" [src] [src] _ _ inside inside').2 ⟨rfl, by decide +kernel⟩
  · intro same
    have stems := ((sharedText [src] [src] "a.b.ts".toList "a.ts".toList (isName _ (by simp))
      (isName _ (by simp))).1 same).2
    revert stems
    decide +kernel

end PlaceholderExports.FsPath
