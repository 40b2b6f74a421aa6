import Mathlib
import PlaceholderExports.Glob.Walk
import PlaceholderExports.Proofs.FsPath.Segments
import PlaceholderExports.Proofs.Results

/-!
# Names read as patterns

The text of a name may be read as a pattern. Without characters of the pattern language it stands
for itself only. With `?` and `*` it stands for itself among others, unless it is `**`, which stands
for directories. A bracket opens a class, and then it depends on the rest of the text whether the
pattern matches it (`matchesItself`).
-/

namespace PlaceholderExports.Glob

open FsPath (IsName)

/-! ### One step of reading -/

/-- A class of characters is no text. -/
lemma char?_readClass {text after : List Char} {part : Part}
    (read : readClass text = .ok (part, after)) :
    part.char? = none ∧ part ≠ .anyDirectories := by
  unfold readClass at read
  split at read
  all_goals
    obtain ⟨⟨inside, rest⟩, -, read⟩ := bind_eq_ok.1 read
    cases read
    exact ⟨rfl, nofun⟩

/-- What reading a text without slashes does with its first character. Two stars have to be a text
of their own. -/
lemma readParts_cases {fuel : Nat} {fresh : Bool} {c : Char} {rest : List Char} {parts : List Part}
    (noSlash : '/' ∉ c :: rest) (read : readParts (fuel + 1) fresh (c :: rest) = .ok parts) :
    (fresh = true ∧ c = '*' ∧ rest = ['*'] ∧ parts = [.anyDirectories]) ∨
      (c = '[' ∧ ∃ part ps, part.char? = none ∧ part ≠ .anyDirectories ∧ parts = part :: ps) ∨
      ∃ part ps, readParts fuel false rest = .ok ps ∧ parts = part :: ps ∧
        (part = .char c ∨ c = '?' ∧ part = .anyChar ∨ c = '*' ∧ part = .anyChars) := by
  unfold readParts at read
  split at read
  case h_1 len => cases len
  case h_2 text _ => cases text
  case h_3 len text =>
    cases text
    obtain rfl := Nat.succ.inj len
    obtain ⟨ps, more, rfl⟩ := map_eq_ok.1 read
    exact .inr (.inr ⟨_, ps, more, rfl, .inr (.inl ⟨rfl, rfl⟩)⟩)
  case h_4 len text =>
    cases text
    obtain rfl := Nat.succ.inj len
    split at read
    case h_1 =>
      obtain ⟨ps, more, rfl⟩ := map_eq_ok.1 read
      exact .inr (.inr ⟨_, ps, more, rfl, .inr (.inr ⟨rfl, rfl⟩)⟩)
    case h_2 star stars =>
      split at read
      case h_1 ends =>
        cases read
        cases rest with
        | nil => cases stars
        | cons d rest =>
          obtain rfl : rest = [] := ends
          have isStar : d = '*' := by
            by_contra other
            rw [List.takeWhile_cons_of_neg (by simpa using other)] at stars
            cases stars
          exact .inl ⟨rfl, rfl, by rw [isStar], rfl⟩
      case h_2 after slash =>
        have inside : '/' ∈ rest := List.mem_of_mem_drop (slash ▸ List.mem_cons_self)
        exact absurd (List.mem_cons_of_mem _ inside) noSlash
      case h_3 => cases read
    case h_3 => cases read
  case h_5 len text =>
    cases text
    obtain rfl := Nat.succ.inj len
    obtain ⟨⟨part, after⟩, opened, read⟩ := bind_eq_ok.1 read
    obtain ⟨ps, -, read⟩ := bind_eq_ok.1 read
    cases read
    obtain ⟨notChar, notDirectories⟩ := char?_readClass opened
    exact .inr (.inl ⟨rfl, part, ps, notChar, notDirectories, rfl⟩)
  case h_6 _ _ _ len text =>
    cases text
    obtain rfl := Nat.succ.inj len
    have notSlash : c ≠ '/' := by
      rintro rfl
      exact noSlash List.mem_cons_self
    rw [decide_eq_false notSlash] at read
    obtain ⟨ps, more, rfl⟩ := map_eq_ok.1 read
    exact .inr (.inr ⟨_, ps, more, rfl, .inl rfl⟩)

/-! ### Whole names -/

/-- What is read as a text is that text. -/
lemma text_of_readParts {fuel : Nat} {fresh : Bool} {x text : List Char} {parts : List Part}
    (noSlash : '/' ∉ x) (enough : x.length ≤ fuel) (read : readParts fuel fresh x = .ok parts)
    (plain : parts.mapM Part.char? = some text) : text = x := by
  induction fuel generalizing fresh x text parts with
  | zero =>
    obtain rfl := List.length_eq_zero_iff.1 (Nat.le_zero.1 enough)
    cases read
    exact (Option.some.inj plain).symm
  | succ fuel ih =>
    cases x with
    | nil =>
      cases read
      exact (Option.some.inj plain).symm
    | cons c rest =>
      obtain ⟨-, rfl, rfl, rfl⟩ | ⟨rfl, part, ps, notChar, -, rfl⟩ | ⟨part, ps, more, rfl, kind⟩ :=
        readParts_cases noSlash read
      · cases plain
      · rw [List.mapM_cons, notChar] at plain
        cases plain
      · rw [List.mapM_cons] at plain
        obtain rfl | ⟨rfl, rfl⟩ | ⟨rfl, rfl⟩ := kind
        · cases tail : ps.mapM Part.char? with
          | none => rw [tail] at plain; cases plain
          | some text' =>
            rw [tail] at plain
            obtain rfl := ih (fun inside => noSlash (List.mem_cons_of_mem c inside))
              (Nat.le_of_succ_le_succ enough) more tail
            exact (Option.some.inj plain).symm
        · cases plain
        · cases plain

/-- A list is a suffix of itself. -/
lemma self_mem_suffixes {α : Type} (xs : List α) : xs ∈ suffixes xs := by
  cases xs <;> exact List.mem_cons_self

/-- A part with what it is read from in front of what the others match. -/
lemma matchesName_cons {c : Char} {rest : List Char} {part : Part} {ps : List Part}
    (kind : part = .char c ∨ c = '?' ∧ part = .anyChar ∨ c = '*' ∧ part = .anyChars)
    (more : matchesName ps rest = true) : matchesName (part :: ps) (c :: rest) = true := by
  obtain rfl | ⟨rfl, rfl⟩ | ⟨rfl, rfl⟩ := kind
  · rw [matchesName, more, Bool.and_true]
    · exact decide_eq_true rfl
    · nofun
  · rw [matchesName, more, Bool.and_true]
    · rfl
    · nofun
  · rw [matchesName, List.any_eq_true]
    exact ⟨rest, List.mem_cons_of_mem _ (self_mem_suffixes rest), more⟩

/-- Without brackets a text other than two stars matches itself. -/
lemma matches_of_readParts {fuel : Nat} {fresh : Bool} {x : List Char} {parts : List Part}
    (noSlash : '/' ∉ x) (noClass : '[' ∉ x) (enough : x.length ≤ fuel)
    (read : readParts fuel fresh x = .ok parts) :
    (fresh = true ∧ x = ['*', '*']) ∨ matchesName parts x = true := by
  induction fuel generalizing fresh x parts with
  | zero =>
    obtain rfl := List.length_eq_zero_iff.1 (Nat.le_zero.1 enough)
    cases read
    exact .inr rfl
  | succ fuel ih =>
    cases x with
    | nil =>
      cases read
      exact .inr rfl
    | cons c rest =>
      obtain ⟨rfl, rfl, rfl, -⟩ | ⟨rfl, -⟩ | ⟨part, ps, more, rfl, kind⟩ :=
        readParts_cases noSlash read
      · exact .inl ⟨rfl, rfl⟩
      · exact absurd List.mem_cons_self noClass
      · obtain ⟨fresh, -⟩ | matched := ih (fun inside => noSlash (List.mem_cons_of_mem c inside))
          (fun inside => noClass (List.mem_cons_of_mem c inside)) (Nat.le_of_succ_le_succ enough)
          more
        · cases fresh
        · exact .inr (matchesName_cons kind matched)

/-! ### Segments -/

/-- Whether a text, read as a pattern, matches itself. -/
def matchesItself (x : List Char) : Bool :=
  match readPattern x with
  | .ok parts => matchesName parts x
  | .error _ => false

/-- A segment that is read from a text. -/
def Segment.IsReadFrom (segment : Segment) (x : List Char) : Prop :=
  ∃ parts, readPattern x = .ok parts ∧ Segment.ofParts parts = segment

/-- What a segment looks for that is read from a text: the name with this text, names that match it,
or directories. Patterns that match themselves are ordinary names. -/
lemma Segment.IsReadFrom.cases {segment : Segment} {x : List Char} (read : segment.IsReadFrom x)
    (noSlash : '/' ∉ x) (self : '[' ∈ x → matchesItself x = true) :
    segment = .name x ∨ (∃ parts, segment = .wild parts ∧ matchesName parts x = true ∧ IsName x) ∨
      (segment = .deep ∧ x = ['*', '*']) := by
  obtain ⟨parts, read, rfl⟩ := read
  unfold Segment.ofParts
  split_ifs with directories
  · refine .inr (.inr ⟨rfl, ?_⟩)
    subst directories
    cases x with
    | nil => cases read
    | cons c rest =>
      obtain ⟨-, rfl, rfl, -⟩ | ⟨-, part, ps, -, other, same⟩ | ⟨part, ps, -, same, kind⟩ :=
        readParts_cases noSlash read
      · rfl
      · exact absurd (List.cons.inj same).1.symm other
      · obtain rfl := (List.cons.inj same).1
        obtain same | ⟨-, same⟩ | ⟨-, same⟩ := kind <;> cases same
  · split
    case h_1 text plain =>
      obtain rfl := text_of_readParts noSlash (le_refl _) read plain
      exact .inl rfl
    case h_2 special =>
      refine .inr (.inl ⟨parts, rfl, ?_, ?_⟩)
      · by_cases bracket : '[' ∈ x
        · have matched := self bracket
          unfold matchesItself at matched
          rwa [read] at matched
        · obtain ⟨-, rfl⟩ | matched := matches_of_readParts noSlash bracket (le_refl _) read
          · cases read
            exact absurd rfl directories
          · exact matched
      · have other : ∀ dots : List Char, (∀ parts, readPattern dots = .ok parts →
            parts.mapM Part.char? ≠ none) → x ≠ dots := by
          rintro dots plain rfl
          exact plain parts read special
        have solid : FsPath.isSolid x = true := by
          unfold FsPath.isSolid
          rw [bne_iff_ne.2 (other [] (by rintro _ ⟨⟩; exact nofun)),
            bne_iff_ne.2 (other ['.'] (by rintro _ ⟨⟩; exact nofun))]
          rfl
        exact ⟨solid, other ['.', '.'] (by rintro _ ⟨⟩; exact nofun), noSlash⟩

/-- A pattern has its segments from the texts between the slashes. -/
lemma ofText_eq_ok {text : String} {glob : Glob} (read : ofText text = .ok glob) :
    List.Forall₂ (fun x segment => Segment.IsReadFrom segment x) (segmentTexts text.toList)
      glob.segments ∧ glob.directoriesOnly = decide (text.toList.getLast? = some '/') := by
  unfold ofText at read
  obtain ⟨_, -, read⟩ := bind_eq_ok.1 read
  obtain ⟨segments, each, read⟩ := bind_eq_ok.1 read
  cases read
  refine ⟨(forall₂_of_mapM each).imp fun x segment read => ?_, rfl⟩
  obtain ⟨parts, found, rfl⟩ := map_eq_ok.1 read
  exact ⟨parts, found, rfl⟩

end PlaceholderExports.Glob
