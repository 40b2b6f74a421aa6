import Mathlib
import PlaceholderExports.Proofs.FsPath.Resolution
import PlaceholderExports.Proofs.Glob.Walks
import PlaceholderExports.Proofs.Results
import PlaceholderExports.Store.Terminal

/-!
# Following a path on a disk

The system follows a path in one go, while a walk looks at every path on the way. Both enter the
same directories: what a path leads through is a directory at every step (`IsDirectory.enterAll`),
and the paths on the way are shorter and lead there too (`LeadsTo.child`). So where the system finds
a file, its path leads to it name by name (`leads_of_isFile`).
-/

namespace PlaceholderExports

open FsPath (IsName)

namespace Disk

variable {d : Disk} {dir dir' : Location} {hasSlash : Bool} {step : String}

/-! ### Entering directories -/

/-- Enters one directory after the other. -/
def enterAll (d : Disk) : Location → List String → Except StoreError Location
  | dir, [] => .ok dir
  | dir, step :: more => do d.enterAll (← d.enter dir step) more

/-- A name can be looked up: it is none of the two entries every directory has, and not too long. -/
def IsEntryName (step : String) : Prop :=
  step ∉ Glob.dotEntries ∧ step.utf8ByteSize ≤ longestName

/-- What a step into a directory does. -/
lemma enter_cases (entered : d.enter dir step = .ok dir') :
    (step = "." ∧ dir' = dir) ∨ (step = ".." ∧ dir' = dir.dropLast) ∨
      (IsEntryName step ∧ d.entry? (dir ++ [step]) = some .directory ∧ dir' = dir ++ [step]) := by
  unfold enter at entered
  split_ifs at entered with here above long
  · exact .inl ⟨here, (Except.ok.inj entered).symm⟩
  · exact .inr (.inl ⟨above, (Except.ok.inj entered).symm⟩)
  · split at entered
    case h_1 directory =>
      refine .inr (.inr ⟨⟨?_, Nat.not_lt.1 long⟩, directory, (Except.ok.inj entered).symm⟩)
      simp only [Glob.dotEntries, List.mem_cons, here, above, List.not_mem_nil, or_self,
        not_false_eq_true]
    case h_2 => cases entered
    case h_3 => cases entered

/-- Directories are entered one after the other. -/
lemma enterAll_append (front back : List String) :
    d.enterAll dir (front ++ back) = (do d.enterAll (← d.enterAll dir front) back) := by
  induction front generalizing dir with
  | nil => rfl
  | cons a front ih =>
    rw [List.cons_append, enterAll, enterAll]
    cases d.enter dir a with
    | error e => rfl
    | ok dir => exact ih

/-- A location where everything on the way from the root is a directory, itself included. -/
def IsDirectory (d : Disk) (dir : Location) : Prop :=
  ∀ above, above <+: dir → d.entry? above = some .directory

/-- The root is a directory. -/
lemma isDirectory_root : d.IsDirectory [] := by
  intro above root
  rw [List.prefix_nil.1 root]
  exact if_pos rfl

/-- A step from a directory leads to a directory. -/
lemma IsDirectory.enter (h : d.IsDirectory dir) (entered : d.enter dir step = .ok dir') :
    d.IsDirectory dir' := by
  obtain ⟨-, rfl⟩ | ⟨-, rfl⟩ | ⟨-, directory, rfl⟩ := enter_cases entered
  · exact h
  · exact fun above inside => h above (inside.trans (List.dropLast_prefix dir))
  · intro above inside
    obtain rfl | inside := List.prefix_concat_iff.1 inside
    · exact directory
    · exact h above inside

/-- Steps from a directory lead to a directory. -/
lemma IsDirectory.enterAll {steps : List String} (h : d.IsDirectory dir)
    (entered : d.enterAll dir steps = .ok dir') : d.IsDirectory dir' := by
  induction steps generalizing dir with
  | nil =>
    cases entered
    exact h
  | cons step more ih =>
    obtain ⟨next, first, later⟩ := bind_eq_ok.1 entered
    exact ih (h.enter first) later

/-! ### Where a path leads -/

/-- The last step of a path is taken in the directory that the others lead to. -/
lemma follow_concat (front : List String) :
    d.follow dir hasSlash (front ++ [step]) =
      (do d.follow (← d.enterAll dir front) hasSlash [step]) := by
  induction front generalizing dir with
  | nil => rfl
  | cons a front ih =>
    obtain ⟨b, rest, whole⟩ : ∃ b rest, front ++ [step] = b :: rest := by
      cases front <;> exact ⟨_, _, rfl⟩
    have next : d.follow dir hasSlash (a :: (front ++ [step])) =
        (do d.follow (← d.enter dir a) hasSlash (front ++ [step])) := by
      rw [whole]
      rfl
    rw [List.cons_append, next, enterAll]
    cases d.enter dir a with
    | error e => rfl
    | ok dir => exact ih

/-- The last step of a path names an entry of the directory. -/
lemma follow_name (entryName : IsEntryName step) :
    d.follow dir hasSlash [step] = .ok ⟨dir, some step, hasSlash⟩ := by
  obtain ⟨notDots, short⟩ := entryName
  simp only [Glob.dotEntries, List.mem_cons, List.not_mem_nil, or_false, not_or] at notDots
  unfold follow
  rw [if_neg notDots.1, if_neg notDots.2, if_neg (Nat.not_lt.2 short)]

/-- A path that enters directories only leads to the last of them. -/
lemma follow_of_enterAll {steps : List String} (entered : d.enterAll dir steps = .ok dir') :
    ∃ place, d.follow dir hasSlash steps = .ok place ∧ place.location = dir' := by
  obtain rfl | ⟨front, step, rfl⟩ := List.eq_nil_or_concat' steps
  · cases entered
    exact ⟨_, rfl, List.append_nil _⟩
  · rw [enterAll_append] at entered
    obtain ⟨last, before, entered⟩ := bind_eq_ok.1 entered
    obtain ⟨_, entered, same⟩ := bind_eq_ok.1 entered
    cases same
    rw [follow_concat, before]
    obtain ⟨rfl, rfl⟩ | ⟨rfl, rfl⟩ | ⟨entryName, -, rfl⟩ := enter_cases entered
    · exact ⟨_, rfl, List.append_nil _⟩
    · exact ⟨_, rfl, List.append_nil _⟩
    · exact ⟨_, follow_name (d := d) entryName, rfl⟩

/-- A path that leads to a file enters directories up to its last step, which is the name of the
file. -/
lemma follow_file {steps : List String} {place : Destination} {bytes : Text.Bytes}
    (directory : d.IsDirectory dir) (followed : d.follow dir hasSlash steps = .ok place)
    (file : d.entry? place.location = some (.file bytes)) :
    ∃ front step dir', steps = front ++ [step] ∧ d.enterAll dir front = .ok dir' ∧
      IsEntryName step ∧ d.entry? (dir' ++ [step]) = some (.file bytes) ∧
      place.hasSlash = hasSlash := by
  have notFile : ∀ {dir : Location}, d.IsDirectory dir →
      d.entry? (Destination.location ⟨dir, none, hasSlash⟩) ≠ some (.file bytes) := by
    intro dir directory file
    rw [Destination.location, Option.toList_none, List.append_nil,
      directory dir (List.prefix_refl dir)] at file
    cases file
  obtain rfl | ⟨front, step, rfl⟩ := List.eq_nil_or_concat' steps
  · cases followed
    exact absurd file (notFile directory)
  · rw [follow_concat] at followed
    obtain ⟨dir', entered, followed⟩ := bind_eq_ok.1 followed
    have directory := directory.enterAll entered
    unfold follow at followed
    split_ifs at followed with here above long
    · cases followed
      exact absurd file (notFile directory)
    · cases followed
      have entered : d.enter dir' ".." = .ok dir'.dropLast := rfl
      exact absurd file (notFile (directory.enter entered))
    · cases followed
      refine ⟨front, step, dir', rfl, entered, ⟨?_, Nat.not_lt.1 long⟩, file, rfl⟩
      simp only [Glob.dotEntries, List.mem_cons, here, above, List.not_mem_nil, or_self,
        not_false_eq_true]

end Disk

/-! ### Paths that are not too long -/

namespace FsPath

variable {path : FsPath} {n : List Char}

/-- The steps of some segments: those that are not empty. -/
def stepsOf (names : List (List Char)) : List String :=
  (names.filter (· ≠ [])).map String.ofList

/-- The steps of segments are those of the first ones and then those of the others. -/
lemma stepsOf_append (front back : List (List Char)) :
    stepsOf (front ++ back) = stepsOf front ++ stepsOf back := by
  unfold stepsOf
  rw [List.filter_append, List.map_append]

/-- A segment that is not empty is a step. -/
lemma stepsOf_singleton (notEmpty : n ≠ []) : stepsOf [n] = [String.ofList n] := by
  unfold stepsOf
  rw [List.filter_cons_of_pos (by simpa using notEmpty)]
  rfl

/-- The steps on both sides of a slash are all there are. -/
lemma steps_append_slash (a b : List Char) :
    Disk.steps (a ++ '/' :: b) = Disk.steps a ++ Disk.steps b := by
  show stepsOf (List.splitOn '/' _) = stepsOf (List.splitOn '/' a) ++ stepsOf (List.splitOn '/' b)
  rw [List.splitOn_append_cons_self, stepsOf_append]

/-- What follows a directory part has steps of its own. -/
lemma steps_dir_append {dir : List Char} (closed : IsDirPart dir) (rest : List Char) :
    Disk.steps (dir ++ rest) = Disk.steps dir ++ Disk.steps rest := by
  have nothing : Disk.steps [] = [] := rfl
  obtain rfl | last := closed
  · rfl
  · obtain ⟨front, rfl⟩ := List.getLast?_eq_some_iff.1 last
    rw [List.append_assoc, List.singleton_append, steps_append_slash, steps_append_slash, nothing,
      List.append_nil]

/-- The slash at the end of a directory adds no step. -/
lemma steps_below (dir : List Char) : Disk.steps (below dir) = Disk.steps dir := by
  unfold below
  split
  · rfl
  · rw [steps_append_slash]
    exact List.append_nil _

/-- The path of a child has one step more. -/
lemma steps_child (noSlash : '/' ∉ n) :
    Disk.steps (path.child (String.ofList n)).text.toList =
      Disk.steps path.text.toList ++ stepsOf [n] := by
  rw [toList_child noSlash, steps_dir_append (isDirPart_below _), steps_below]
  exact congrArg (_ ++ stepsOf ·) (List.splitOn_eq_singleton noSlash)

/-- A path that the system follows as it is written: it starts at the root and is not too long. -/
structure Fits (path : FsPath) : Prop where
  absolute : path.text.toList.head? = some '/'
  noNull : '\x00' ∉ path.text.toList
  short : path.text.utf8ByteSize ≤ maxBytes

/-- A path with fewer characters fits too. -/
lemma Fits.of_sublist {whole : FsPath} (fits : Fits whole)
    (absolute : path.text.toList.head? = some '/')
    (fewer : path.text.toList.Sublist whole.text.toList) : Fits path := by
  refine ⟨absolute, fun null => fits.noNull (fewer.subset null), le_trans ?_ fits.short⟩
  rw [← String.utf8Len_toList, ← String.utf8Len_toList]
  exact String.utf8Len_le_of_sublist fewer

/-- A path that fits is followed from the root. -/
lemma Fits.resolve (fits : Fits path) (d : Disk) :
    d.resolve path =
      d.follow [] (path.text.toList.getLast? = some '/') (Disk.steps path.text.toList) := by
  have notEmpty : path.text.toList ≠ [] := by
    intro empty
    have absolute := fits.absolute
    rw [empty] at absolute
    cases absolute
  unfold Disk.resolve
  dsimp only
  rw [if_neg notEmpty, if_neg (by simpa using fits.noNull), if_neg (Nat.not_lt.2 fits.short),
    if_pos fits.absolute]

end FsPath

namespace Disk

variable {d : Disk} {path : FsPath} {dir dir' : Location} {n : List Char}

/-- A path leads through directories only, to one of them. -/
structure LeadsTo (d : Disk) (path : FsPath) (dir : Location) : Prop where
  fits : path.Fits
  entered : d.enterAll [] (steps path.text.toList) = .ok dir

namespace LeadsTo

variable (leads : d.LeadsTo path dir)

include leads

/-- What the path leads to is a directory, with everything on the way. -/
lemma isDirectory : d.IsDirectory dir := isDirectory_root.enterAll leads.entered

/-- The path is resolved to the place of the directory. -/
lemma resolve : ∃ place, d.resolve path = .ok place ∧ place.location = dir := by
  rw [leads.fits.resolve]
  exact follow_of_enterAll leads.entered

/-- What is found under the path is a directory. -/
lemma find : d.find path = .ok .directory := by
  obtain ⟨place, resolved, rfl⟩ := leads.resolve
  unfold Disk.find
  rw [resolved]
  dsimp only [bind, Except.bind]
  rw [leads.isDirectory _ (List.prefix_refl _)]
  rfl

/-- The path is that of a directory. -/
lemma isDir : d.isDir path = true := by
  unfold Disk.isDir
  rw [leads.find]

/-- Something is there under the path. -/
lemma contains : d.contains path = true := by
  unfold Disk.contains
  rw [leads.find]
  rfl

/-- An entry of a directory is listed. -/
lemma mem_names {step : String} {e : DiskEntry} (there : d.entry? (dir ++ [step]) = some e) :
    step ∈ d.names path := by
  obtain ⟨place, resolved, rfl⟩ := leads.resolve
  unfold entry? at there
  rw [if_neg (List.append_ne_nil_of_right_ne_nil _ (List.cons_ne_nil _ _))] at there
  obtain ⟨before, after, entries, -⟩ := List.lookup_eq_some_iff.1 there
  unfold names
  rw [resolved, leads.isDir]
  refine List.mem_filterMap.2 ⟨_, entries ▸ List.mem_append_right before List.mem_cons_self, ?_⟩
  dsimp only
  rw [List.dropLast_concat, if_pos rfl, List.getLast?_concat]

/-- A path on the way has fewer characters than the whole path. -/
lemma child_fits {whole : FsPath} {rest : List Char} (fits : whole.Fits) (noSlash : '/' ∉ n)
    (within : (FsPath.below path.text.toList ++ (n ++ rest)).Sublist whole.text.toList) :
    (path.child (String.ofList n)).Fits := by
  refine fits.of_sublist ?_ ?_
  · rw [FsPath.toList_child noSlash]
    exact FsPath.head?_below leads.fits.absolute n
  · rw [FsPath.toList_child noSlash]
    rw [← List.append_assoc] at within
    exact (List.sublist_append_left _ _).trans within

/-- Where entering a name leads, the path of the name leads. -/
lemma child (noSlash : '/' ∉ n) (fits : (path.child (String.ofList n)).Fits)
    (entered : d.enterAll dir (FsPath.stepsOf [n]) = .ok dir') :
    d.LeadsTo (path.child (String.ofList n)) dir' := by
  refine ⟨fits, ?_⟩
  rw [FsPath.steps_child noSlash, enterAll_append, leads.entered]
  exact entered

/-- The path of the name of a file leads to the file. -/
lemma find_file (isName : IsName n) (fits : (path.child (String.ofList n)).Fits)
    (entryName : IsEntryName (String.ofList n)) {bytes : Text.Bytes}
    (file : d.entry? (dir ++ [String.ofList n]) = some (.file bytes)) :
    d.find (path.child (String.ofList n)) = .ok (.file bytes) := by
  have notEmpty : n ≠ [] := FsPath.ne_nil_of_isSolid isName.solid
  have noSlash : (path.child (String.ofList n)).text.toList.getLast? ≠ some '/' := by
    rw [FsPath.toList_child isName.noSlash, List.getLast?_append_of_ne_nil _ notEmpty]
    exact fun last => isName.noSlash (List.mem_of_getLast? last)
  unfold Disk.find
  rw [fits.resolve, FsPath.steps_child isName.noSlash, FsPath.stepsOf_singleton notEmpty,
    follow_concat, leads.entered, decide_eq_false noSlash]
  dsimp only [bind, Except.bind]
  rw [follow_name entryName]
  dsimp only [Destination.location, Option.toList_some]
  rw [file]
  rfl

end LeadsTo

/-- What is known of the path of a file: directories are entered up to its name, and it does not end
in a slash. -/
lemma exists_of_isFile (absolute : path.text.toList.head? = some '/')
    (isFile : d.isFile path = true) :
    path.Fits ∧ path.text.toList.getLast? ≠ some '/' ∧ ∃ front step dir bytes,
      steps path.text.toList = front ++ [step] ∧ d.enterAll [] front = .ok dir ∧
        IsEntryName step ∧ d.entry? (dir ++ [step]) = some (.file bytes) := by
  unfold Disk.isFile at isFile
  split at isFile
  case h_2 => cases isFile
  case h_1 bytes found =>
    obtain ⟨place, resolved, found⟩ := bind_eq_ok.1 found
    have fits : path.Fits := by
      unfold Disk.resolve at resolved
      dsimp only at resolved
      split_ifs at resolved with _ null long
      all_goals exact ⟨absolute, by simpa using null, Nat.not_lt.1 long⟩
    rw [fits.resolve] at resolved
    split at found
    case h_1 => cases found
    case h_3 => cases found
    case h_2 bytes' file =>
      obtain ⟨front, step, dir, split, entered, entryName, there, slash⟩ :=
        follow_file isDirectory_root resolved file
      refine ⟨fits, fun last => ?_, front, step, dir, bytes', split, entered, entryName, there⟩
      rw [slash, decide_eq_true last] at found
      cases found

/-- The root leads to itself. -/
lemma leadsTo_root : d.LeadsTo ⟨"/"⟩ [] :=
  ⟨⟨rfl, by decide, by decide⟩, rfl⟩

end Disk

/-! ### Where the system finds a file -/

section

variable {t : Terminal} {path whole : FsPath} {dir dir' : Location} {n : List Char}

/-- Whether something is there is read off the disk. -/
lemma run_contains :
    ((Terminal.shell.toFileTree.contains path).run t).1 = t.disk.contains path := rfl

/-- Whether a path is that of a file is read off the disk. -/
lemma run_isFile : ((Terminal.shell.toFileTree.isFile path).run t).1 = t.disk.isFile path := rfl

/-- Whether a path is that of a directory is read off the disk. -/
lemma run_isDir : ((Terminal.shell.toFileTree.isDir path).run t).1 = t.disk.isDir path := rfl

/-- The names in a directory are read off the disk. -/
lemma run_names : ((Terminal.shell.toFileTree.names path).run t).1 = t.disk.names path := rfl

/-- A name that is entered is an entry of its directory. -/
lemma holds_of_enter (leads : t.disk.LeadsTo path dir) (noSlash : '/' ∉ n)
    (fits : (path.child (String.ofList n)).Fits)
    (entered : t.disk.enterAll dir (FsPath.stepsOf [n]) = .ok dir') :
    Terminal.shell.toFileTree.Holds t path n := by
  have contains := (leads.child noSlash fits entered).contains
  refine ⟨fun _ => run_isDir.trans leads.isDir, fun _ => run_contains.trans contains,
    fun isName => ?_⟩
  obtain ⟨notEmpty, -, notDots⟩ := FsPath.isName_iff.1 isName
  rw [FsPath.stepsOf_singleton notEmpty] at entered
  rw [run_names]
  obtain ⟨_, entered, -⟩ := bind_eq_ok.1 entered
  obtain ⟨same, -⟩ | ⟨same, -⟩ | ⟨-, directory, -⟩ := Disk.enter_cases entered
  · exact absurd (same ▸ List.mem_cons_self) notDots
  · exact absurd (same ▸ List.mem_cons_of_mem _ List.mem_cons_self) notDots
  · exact leads.mem_names directory

/-- Where directories are entered up to the name of a file, a path leads to the file name by
name. -/
lemma leads_of_enterAll {bytes : Text.Bytes} {front : List (List Char)} (fits : whole.Fits)
    (leads : t.disk.LeadsTo path dir) (noSlash : ∀ m ∈ front, '/' ∉ m)
    (entered : t.disk.enterAll dir (FsPath.stepsOf front) = .ok dir') (isName : IsName n)
    (entryName : Disk.IsEntryName (String.ofList n))
    (file : t.disk.entry? (dir' ++ [String.ofList n]) = some (.file bytes))
    (within : (FsPath.below path.text.toList ++ ['/'].intercalate (front ++ [n])).Sublist
      whole.text.toList) :
    Terminal.shell.toFileTree.Leads t path (front ++ [n]) ∧
      t.disk.isFile (path.descend (front ++ [n])) = true := by
  induction front generalizing path dir with
  | nil =>
    cases entered
    rw [List.nil_append, List.intercalate_singleton, ← List.append_nil n] at within
    have found :=
      leads.find_file isName (leads.child_fits fits isName.noSlash within) entryName file
    have contains : t.disk.contains (path.child (String.ofList n)) = true := by
      unfold Disk.contains
      rw [found]
      rfl
    have isFile : t.disk.isFile (path.child (String.ofList n)) = true := by
      unfold Disk.isFile
      rw [found]
    refine ⟨⟨⟨fun _ => run_isDir.trans leads.isDir, fun _ => run_contains.trans contains,
      fun _ => ?_⟩, fun more => absurd rfl more, trivial⟩, isFile⟩
    rw [run_names]
    exact leads.mem_names file
  | cons m front ih =>
    obtain ⟨noSlash, later⟩ := List.forall_mem_cons.1 noSlash
    have notLast : front ++ [n] ≠ [] := List.append_ne_nil_of_right_ne_nil _ (List.cons_ne_nil _ _)
    rw [← List.singleton_append, FsPath.stepsOf_append, Disk.enterAll_append] at entered
    obtain ⟨next, first, entered⟩ := bind_eq_ok.1 entered
    rw [List.cons_append, FsPath.intercalate_cons m notLast] at within
    have childFits := leads.child_fits fits noSlash within
    have child := leads.child noSlash childFits first
    have fewer := (FsPath.below_sublist (path.child (String.ofList m)).text.toList).append_right
      (['/'].intercalate (front ++ [n]))
    rw [FsPath.toList_child noSlash, List.append_assoc, List.append_assoc, List.singleton_append,
      ← FsPath.toList_child noSlash] at fewer
    obtain ⟨leadsOn, isFile⟩ := ih child later entered (fewer.trans within)
    exact ⟨⟨holds_of_enter leads noSlash childFits first,
      fun _ _ => run_isDir.trans child.isDir, leadsOn⟩, isFile⟩

/-- The path of a file leads to the file name by name. The names end where the path does, but for
empty segments of the path. -/
theorem leads_of_isFile (whole : FsPath) (absolute : whole.text.toList.head? = some '/')
    (isFile : t.disk.isFile whole = true) :
    whole.text.toList.getLast? ≠ some '/' ∧
      (∀ m ∈ Glob.segmentTexts whole.text.toList, '/' ∉ m) ∧
      Terminal.shell.toFileTree.Leads t ⟨"/"⟩ (Glob.segmentTexts whole.text.toList) ∧
      t.disk.isFile (FsPath.descend ⟨"/"⟩ (Glob.segmentTexts whole.text.toList)) = true ∧
      FsPath.descend ⟨"/"⟩ (Glob.segmentTexts whole.text.toList) = whole.withoutEmptySegments := by
  obtain ⟨fits, noSlash, front, step, dir, bytes, split, entered, entryName, file⟩ :=
    Disk.exists_of_isFile absolute isFile
  obtain ⟨names, n, segs, texts, notEmpty, inside⟩ := FsPath.exists_names absolute noSlash
  have stepsEq : FsPath.stepsOf names ++ [String.ofList n] = front ++ [step] := by
    rw [← FsPath.stepsOf_singleton notEmpty, ← FsPath.stepsOf_append, ← split]
    show _ = FsPath.stepsOf (List.splitOn '/' _)
    rw [segs]
    rfl
  obtain ⟨rfl, same⟩ := List.append_inj' stepsEq rfl
  obtain ⟨rfl, -⟩ := List.cons.inj same
  have isName := FsPath.isName_iff.2
    ⟨notEmpty, inside n (List.mem_append_right _ List.mem_cons_self), entryName.1⟩
  have whole_eq : FsPath.below (⟨"/"⟩ : FsPath).text.toList ++ ['/'].intercalate (names ++ [n]) =
      whole.text.toList := by
    rw [FsPath.below_root, ← @List.intercalate_splitOn _ whole.text.toList _ _ '/', segs,
      FsPath.intercalate_cons [] (List.append_ne_nil_of_right_ne_nil _ (List.cons_ne_nil _ _))]
    rfl
  obtain ⟨leads, found⟩ := leads_of_enterAll fits Disk.leadsTo_root
    (fun m mem => inside m (List.mem_append_left _ mem)) entered isName entryName file
    (whole_eq ▸ List.Sublist.refl _)
  rw [texts]
  exact ⟨noSlash, inside, leads, found, FsPath.descend_root segs notEmpty inside⟩

/-- The pattern that is read from the path of a file matches the file, if every name with a bracket
matches itself and `**` stands only before ordinary names. -/
theorem mem_matching_of_isFile (whole : FsPath) {glob : Glob}
    (absolute : whole.text.toList.head? = some '/') (isFile : t.disk.isFile whole = true)
    (read : Glob.ofText whole.text = .ok glob)
    (self : ∀ n ∈ Glob.segmentTexts whole.text.toList, '[' ∈ n → Glob.matchesItself n = true)
    (stars : FileTree.starsLead (Glob.segmentTexts whole.text.toList) = true) :
    whole.withoutEmptySegments ∈ ((Terminal.shell.toFileTree.matching glob).run t).1 ∧
      ((Terminal.shell.toFileTree.isFile whole.withoutEmptySegments).run t).1 = true := by
  obtain ⟨noSlash, inside, leads, found, ends⟩ := leads_of_isFile whole absolute isFile
  obtain ⟨segments, directoriesOnly⟩ := Glob.ofText_eq_ok read
  rw [← ends]
  refine ⟨(FileTree.mem_matching Terminal.still).2 ⟨?_, fun only => ?_⟩, run_isFile.trans found⟩
  · refine (FileTree.finds_of_leads Terminal.still leads stars segments inside self ?_).1
    exact segments.length_eq ▸ Nat.le_add_left _ _
  · rw [directoriesOnly] at only
    exact absurd (of_decide_eq_true only) noSlash

end

end PlaceholderExports
