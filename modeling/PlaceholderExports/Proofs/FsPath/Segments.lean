import Mathlib
import PlaceholderExports.FsPath.Components

/-!
# Segments of paths

The segments of a path text are what stands between its slashes: `List.splitOn` finds them, and
`List.intercalate` puts them together again. The components of a path are its lead, which is the
root or a leading `.`, and then its solid segments (`components_eq`), so what is known of lists of
segments carries over to components.

A text that is cut behind a slash falls into a directory part and a rest. If the rest is an ordinary
name, a change of the extension keeps the directory part (`withExtension_dir_name`).
-/

namespace PlaceholderExports.FsPath

/-! ### Splitting and joining -/

/-- A segment has no slash. -/
lemma notMem_of_mem_splitOn {t s : List Char} (mem : s ∈ List.splitOn '/' t) : '/' ∉ s := by
  induction t generalizing s with
  | nil =>
    rw [List.mem_singleton.1 mem]
    exact List.not_mem_nil
  | cons c t ih =>
    rw [List.splitOn_cons_eq_if_modifyHead] at mem
    split_ifs at mem with slash
    · obtain rfl | mem := List.mem_cons.1 mem
      · exact List.not_mem_nil
      · exact ih mem
    · -- the character goes to the first segment
      obtain ⟨first, more, split⟩ := List.exists_cons_of_ne_nil (List.splitOn_ne_nil '/' t)
      rw [split] at mem ih
      obtain rfl | mem := List.mem_cons.1 mem
      · rw [List.mem_cons, not_or]
        exact ⟨fun same => slash (beq_iff_eq.2 same.symm), ih List.mem_cons_self⟩
      · exact ih (List.mem_cons_of_mem first mem)

/-- A slash stands between the first segment and the others. -/
lemma intercalate_cons (s : List Char) {segs : List (List Char)} (h : segs ≠ []) :
    ['/'].intercalate (s :: segs) = s ++ '/' :: ['/'].intercalate segs := by
  rw [List.intercalate_cons_of_ne_nil h, List.append_assoc]
  rfl

/-- What stands before the last of several segments does not depend on it. -/
lemma intercalate_concat (front : List (List Char)) (s : List Char) :
    ['/'].intercalate (front ++ [s]) = front.flatMap (· ++ ['/']) ++ s := by
  induction front with
  | nil => exact List.intercalate_singleton
  | cons f front ih =>
    have ne : front ++ [s] ≠ [] := List.append_ne_nil_of_right_ne_nil _ (List.cons_ne_nil _ _)
    rw [List.cons_append, intercalate_cons f ne, ih, List.flatMap_cons, List.append_assoc,
      List.append_assoc]
    rfl

/-! ### Components -/

/-- The segments of a path that stand for components. -/
def solids (t : List Char) : List (List Char) := (List.splitOn '/' t).filter isSolid

/-- The component before the segments of a path: the root, a leading `.`, or nothing. -/
def lead (t : List Char) : List Component :=
  (if (layout t).rooted then [.root] else []) ++ if (layout t).dotted then [.here] else []

/-- The empty path has no solid segments. -/
@[simp] lemma solids_nil : solids [] = [] := rfl

/-- The solid segments on both sides of a slash are all there are. -/
lemma solids_append_slash (a b : List Char) : solids (a ++ '/' :: b) = solids a ++ solids b := by
  unfold solids
  rw [List.splitOn_append_cons_self, List.filter_append]

/-- The solid segments of a path stand in its body. -/
lemma filter_body (t : List Char) : (layout t).body.filter isSolid = solids t := by
  unfold solids layout
  split
  case h_1 split => rw [split]; rfl
  case h_2 split => rw [split]; rfl
  case h_3 => rfl

/-- The components of a path are its lead and its solid segments. -/
lemma components_eq (t : List Char) :
    components t = lead t ++ (solids t).map Layout.solidComponent := by
  unfold components Layout.components
  rw [filter_body]
  rfl

/-- A path that begins with a slash is rooted, and its body is what follows. -/
lemma layout_slash (t : List Char) : layout ('/' :: t) = ⟨true, false, List.splitOn '/' t⟩ := by
  have split : List.splitOn '/' ('/' :: t) = [] :: List.splitOn '/' t := rfl
  unfold layout
  rw [split]
  cases found : List.splitOn '/' t with
  | nil => exact absurd found (List.splitOn_ne_nil '/' t)
  | cons next more => rfl

/-- A path that begins with a slash leads from the root. -/
lemma lead_of_absolute {t : List Char} (h : t.head? = some '/') : lead t = [.root] := by
  obtain ⟨rest, rfl⟩ := List.head?_eq_some_iff.1 h
  unfold lead
  rw [layout_slash]
  rfl

/-- A lead is nothing, the root or a leading `.`. -/
lemma lead_eq (t : List Char) : lead t = [] ∨ lead t = [.root] ∨ lead t = [.here] := by
  unfold lead layout
  split
  · exact .inr (.inl rfl)
  · exact .inr (.inr rfl)
  · exact .inl rfl

/-- Segments differ in their components. -/
lemma solidComponent_injective : Function.Injective Layout.solidComponent := by
  intro s s' same
  unfold Layout.solidComponent at same
  by_cases h : s = ['.', '.']
  · by_cases h' : s' = ['.', '.']
    · rw [h, h']
    · rw [if_pos h, if_neg h'] at same
      cases same
  · by_cases h' : s' = ['.', '.']
    · rw [if_neg h, if_pos h'] at same
      cases same
    · rw [if_neg h, if_neg h'] at same
      exact Component.name.inj same

/-! ### Ordinary names -/

/-- An ordinary name: a segment that is neither empty nor `.` nor `..`. -/
structure IsName (n : List Char) : Prop where
  solid : isSolid n = true
  notParent : n ≠ ['.', '.']
  noSlash : '/' ∉ n

instance (n : List Char) : Decidable (IsName n) :=
  decidable_of_iff (isSolid n = true ∧ n ≠ ['.', '.'] ∧ '/' ∉ n)
    ⟨fun ⟨solid, notParent, noSlash⟩ => ⟨solid, notParent, noSlash⟩,
      fun h => ⟨h.solid, h.notParent, h.noSlash⟩⟩

/-- A path has a file name if its last solid segment is not `..`. -/
lemma fileName?_eq_some {t n : List Char} :
    fileName? t = some n ↔ (solids t).getLast? = some n ∧ n ≠ ['.', '.'] := by
  unfold fileName?
  rw [components_eq, List.getLast?_append, List.getLast?_map]
  cases (solids t).getLast? with
  | none =>
    constructor
    · intro named
      obtain h | h | h := lead_eq t <;> rw [h] at named <;> cases named
    · rintro ⟨last, -⟩
      cases last
  | some s =>
    rw [Option.map_some, Option.some_or]
    unfold Layout.solidComponent
    by_cases h : s = ['.', '.']
    · rw [if_pos h]
      constructor
      · intro named
        cases named
      · rintro ⟨same, other⟩
        exact absurd (Option.some.inj same ▸ h) other
    · rw [if_neg h]
      constructor
      · intro same
        exact ⟨same, Option.some.inj same ▸ h⟩
      · exact And.left

/-- The file name of a path is a name. -/
lemma isName_of_fileName? {t n : List Char} (h : fileName? t = some n) : IsName n := by
  obtain ⟨last, notParent⟩ := fileName?_eq_some.1 h
  obtain ⟨mem, solid⟩ := List.mem_filter.1 (List.mem_of_getLast? last)
  exact ⟨solid, notParent, notMem_of_mem_splitOn mem⟩

/-- A name has itself for its only solid segment. -/
lemma IsName.solids_eq {n : List Char} (h : IsName n) : solids n = [n] := by
  unfold solids
  rw [List.splitOn_eq_singleton h.noSlash, List.filter_cons_of_pos h.solid]
  rfl

/-- A segment that ends in something else than a dot is an ordinary name. -/
lemma isName_of_getLast? {n : List Char} {c : Char} (noSlash : '/' ∉ n) (last : n.getLast? = some c)
    (noDot : c ≠ '.') : IsName n := by
  have other : ∀ dots : List Char, dots.getLast? = some '.' → n ≠ dots := by
    rintro dots lastDot rfl
    exact noDot (Option.some.inj (last.symm.trans lastDot))
  have notEmpty : n ≠ [] := by
    rintro rfl
    cases last
  refine ⟨?_, other _ rfl, noSlash⟩
  unfold isSolid
  rw [bne_iff_ne.2 notEmpty, bne_iff_ne.2 (other ['.'] rfl)]
  rfl

/-- A segment behind which stands an end without slashes and a last dot is an ordinary name. -/
lemma isName_append {n ending : List Char} {c : Char} (noSlash : '/' ∉ n) (noSlash' : '/' ∉ ending)
    (last : ending.getLast? = some c) (noDot : c ≠ '.') : IsName (n ++ ending) := by
  refine isName_of_getLast? (c := c) ?_ ?_ noDot
  · rw [List.mem_append, not_or]
    exact ⟨noSlash, noSlash'⟩
  · rw [List.getLast?_append, last]
    rfl

/-- A stem is the front of its name. -/
lemma prefix_stem (n : List Char) : stem n <+: n := by
  have whole := List.takeWhile_append_dropWhile (p := (· ≠ '.')) (l := n.reverse)
  unfold stem
  split
  · exact List.prefix_refl n
  · exact List.prefix_refl n
  · next c before _ found =>
    rw [found] at whole
    rw [← List.reverse_reverse n, ← whole, List.reverse_append, List.reverse_cons,
      List.append_assoc]
    exact List.prefix_append _ _

/-! ### Directory parts -/

/-- Whether a segment begins where a text ends. -/
def IsDirPart (dir : List Char) : Prop := dir = [] ∨ dir.getLast? = some '/'

/-- What follows a directory part has segments of its own. -/
lemma splitOn_dir_append {dir : List Char} (h : IsDirPart dir) (rest : List Char) :
    List.splitOn '/' (dir ++ rest) = (List.splitOn '/' dir).dropLast ++ List.splitOn '/' rest := by
  obtain rfl | last := h
  · rfl
  · obtain ⟨front, rfl⟩ := List.getLast?_eq_some_iff.1 last
    rw [List.append_assoc, List.singleton_append, List.splitOn_append_cons_self,
      List.splitOn_append_cons_self]
    show _ = (List.splitOn '/' front ++ [[]]).dropLast ++ _
    rw [List.dropLast_concat]

/-- What follows a directory part has solid segments of its own. -/
lemma solids_dir_append {dir : List Char} (h : IsDirPart dir) (rest : List Char) :
    solids (dir ++ rest) = solids dir ++ solids rest := by
  obtain rfl | last := h
  · rfl
  · obtain ⟨front, rfl⟩ := List.getLast?_eq_some_iff.1 last
    rw [List.append_assoc, List.singleton_append, solids_append_slash, solids_append_slash,
      solids_nil, List.append_nil]

/-- A text falls into a directory part and a last segment in one way only. -/
lemma dir_append_inj {dir dir' n n' : List Char} (hd : IsDirPart dir) (hd' : IsDirPart dir')
    (hn : '/' ∉ n) (hn' : '/' ∉ n') (same : dir ++ n = dir' ++ n') : dir = dir' ∧ n = n' := by
  -- what one directory part has more than the other would end in a slash
  have empty : ∀ {front mid rest : List Char}, IsDirPart (front ++ mid) → '/' ∉ mid ++ rest →
      mid = [] := by
    intro front mid rest closed noSlash
    obtain rfl | ⟨mid, c, rfl⟩ := List.eq_nil_or_concat' mid
    · rfl
    · rw [← List.append_assoc] at closed
      obtain none | last := closed
      · simp at none
      · rw [List.getLast?_concat] at last
        obtain rfl := Option.some.inj last
        simp at noSlash
  obtain ⟨mid, rfl, rfl⟩ | ⟨mid, rfl, rfl⟩ := List.append_eq_append_iff.1 same
  · obtain rfl := empty hd' hn
    exact ⟨(List.append_nil _).symm, rfl⟩
  · obtain rfl := empty hd hn'
    exact ⟨List.append_nil _, rfl⟩

/-- The parts of a path make up its text. -/
lemma text_layout (t : List Char) : (layout t).text = t := by
  conv_rhs => rw [← @List.intercalate_splitOn _ t _ _ '/']
  unfold layout
  split
  case h_1 next more split =>
    rw [split, intercalate_cons [] (List.cons_ne_nil _ _)]
    rfl
  case h_2 split =>
    rw [split]
    rfl
  case h_3 => rfl

/-- What stands before the last segment of a layout does not depend on it. -/
lemma text_concat (l : Layout) (front : List (List Char)) :
    ∃ dir, ∀ s, { l with body := front ++ [s] }.text = dir ++ s := by
  obtain ⟨rooted, dotted, _⟩ := l
  cases rooted with
  | true =>
    refine ⟨'/' :: front.flatMap (· ++ ['/']), fun s => ?_⟩
    exact congrArg (List.cons '/') (intercalate_concat front s)
  | false =>
    cases dotted with
    | true => exact ⟨(['.'] :: front).flatMap (· ++ ['/']), intercalate_concat (['.'] :: front)⟩
    | false => exact ⟨front.flatMap (· ++ ['/']), intercalate_concat front⟩

/-- A solid segment at the end is not trimmed. -/
lemma trimEnd_concat (front : List (List Char)) {n : List Char} (solid : isSolid n = true) :
    Layout.trimEnd (front ++ [n]) = front ++ [n] := by
  unfold Layout.trimEnd
  rw [List.reverse_concat, List.dropWhile_cons_of_neg (by rw [solid]; exact nofun),
    ← List.reverse_concat, List.reverse_reverse]

section Names

variable {dir n : List Char} (hd : IsDirPart dir) (hn : IsName n)

include hd hn

/-- A name adds itself to the solid segments of its directory. -/
lemma solids_dir_name : solids (dir ++ n) = solids dir ++ [n] := by
  rw [solids_dir_append hd, hn.solids_eq]

/-- The file name of a path that ends with a name is that name. -/
lemma fileName?_dir_name : fileName? (dir ++ n) = some n := by
  rw [fileName?_eq_some, solids_dir_name hd hn]
  exact ⟨List.getLast?_concat, hn.notParent⟩

/-- A name behind a directory part is the last segment of the layout. -/
lemma body_dir_name : ∃ front, (layout (dir ++ n)).body = front ++ [n] := by
  have segs : List.splitOn '/' (dir ++ n) = (List.splitOn '/' dir).dropLast ++ [n] := by
    rw [splitOn_dir_append hd, List.splitOn_eq_singleton hn.noSlash]
  have solid := hn.solid
  generalize (List.splitOn '/' dir).dropLast = front at segs
  unfold layout
  rw [segs]
  -- the lead is not solid, so it is not the name
  match front with
  | [] =>
    split
    case h_1 split => cases split
    case h_2 split =>
      obtain ⟨rfl, rfl⟩ := List.cons.inj split
      cases solid
    case h_3 => exact ⟨[], rfl⟩
  | s :: front =>
    split
    case h_1 split => exact ⟨front, (List.cons.inj split).2.symm⟩
    case h_2 split => exact ⟨front, (List.cons.inj split).2.symm⟩
    case h_3 => exact ⟨s :: front, rfl⟩

/-- A name behind a directory part gets another extension where it stands. -/
theorem withExtension_dir_name (ext : List Char) :
    withExtension (dir ++ n) ext = dir ++ (stem n ++ '.' :: ext) := by
  obtain ⟨front, body⟩ := body_dir_name hd hn
  obtain ⟨dir', text⟩ := text_concat (layout (dir ++ n)) front
  have whole : dir' ++ n = dir ++ n := by
    rw [← text n, ← body]
    exact text_layout (dir ++ n)
  unfold withExtension
  rw [fileName?_dir_name hd hn]
  dsimp only
  rw [body, trimEnd_concat front hn.solid, List.dropLast_concat, text,
    List.append_cancel_right whole, List.append_assoc]

end Names

end PlaceholderExports.FsPath
