import PlaceholderExports.Proofs.Reading.Prefix
import PlaceholderExports.Proofs.Reading.Running

/-!
# Texts with a next line

Whether the last statement of a text ends where the text does may depend on the next line. It ends
there if known steps read the statements of the text up to the beginning of that line
(`statementsUpTo`). Then reading comes to the next line with these statements, however that line
goes on (`statementsUpTo_follows`).
-/

namespace PlaceholderExports.Syntax

/-- The statements of a text up to the place where a given text remains, read by known steps. The
first argument bounds their number, and the list holds those found so far, the last one first. -/
def statementsUpTo (rules : Rules) (ctx : Circumstances) (remaining : List Char) :
    Nat → List Stmt → Cursor → Option (List Stmt)
  | 0, _, _ => none
  | fuel + 1, found, c =>
    if c.start = remaining then if c.openDefaults = 0 then some found else none
    else
      match (nextStatement found).run ⟨Step.takeKnown⟩ rules ctx c with
      | .done (some found) c => statementsUpTo rules ctx remaining fuel found c
      | _ => none

/-- The tree of a text, if its statements end before a next line that begins in a given way. -/
def Module.ofTextBefore? (markup : Bool) (text next : String) : Option Module :=
  let (hashbang?, rest) := takeHashbang text.toList
  let whole := rest ++ '\n' :: next.toList
  (statementsUpTo (.level ⟨Step.takeKnown⟩ (whole.length + 1)) { markup } next.toList
    (whole.length + 1) [] (.ofText whole true 0)).map fun found =>
      let (directives, body) := takeDirectives found.reverse
      { hashbang?, directives, body }

/-- Reads at most so many statements from a cursor on, up to the end of the text. The list holds
those before the cursor, the last one first. -/
def statementsFrom (rules : Rules) (ctx : Circumstances) :
    Nat → List Stmt → Cursor → Outcome (List Stmt) :=
  .extend fun found c => (nextStatement found).run ⟨Step.take⟩ rules ctx c

section

variable {more : List Char} {rules rules' : Rules} {ctx : Circumstances} {found found' : List Stmt}
  {c d : Cursor}

/-- A statement that is read is added, and reading goes on. -/
lemma statementsFrom_of_some
    (h : (nextStatement found).run ⟨Step.take⟩ rules ctx c = .done (some found') d) (fuel : Nat) :
    statementsFrom rules ctx (fuel + 1) found c = statementsFrom rules ctx fuel found' d :=
  Outcome.extend_of_some h fuel

/-- Reading ends where there is no further statement. -/
lemma statementsFrom_of_none
    (h : (nextStatement found).run ⟨Step.take⟩ rules ctx c = .done none d) (fuel : Nat) :
    statementsFrom rules ctx (fuel + 1) found c = .done found d :=
  Outcome.extend_of_none h fuel

/-- The reading of statements up to a place is the first part of the reading of every text that goes
on. -/
lemma statementsUpTo_follows (nested : Rules.Follow more rules rules') {remaining : List Char}
    {fuel : Nat} {body : List Stmt} (here : c.Extends more d)
    (h : statementsUpTo rules ctx remaining fuel found c = some body) (extra : Nat) :
    ∃ (e e' : Cursor) (fuel' : Nat), e.Extends more e' ∧ e.start = remaining ∧ e.openDefaults = 0 ∧
      extra ≤ fuel' ∧
      statementsFrom rules' ctx (fuel + extra) found d =
        statementsFrom rules' ctx fuel' body e' := by
  induction fuel generalizing found c d with
  | zero => cases h
  | succ fuel ih =>
    rw [statementsUpTo] at h
    split_ifs at h with place closed
    · cases h
      exact ⟨c, d, _, here, place, closed, Nat.le_add_left extra _, rfl⟩
    · split at h
      · rename_i found' c' read
        have follows := (nextStatement found).run_follows nested ctx here
        rw [read] at follows
        obtain ⟨d', read', there⟩ := follows
        obtain ⟨e, e', fuel', places, place, closed, enough, same⟩ := ih there h
        refine ⟨e, e', fuel', places, place, closed, enough, ?_⟩
        rw [Nat.add_right_comm, statementsFrom_of_some read', same]
      · cases h

end

/-- A text that does not begin with `#!` has no such line. -/
lemma takeHashbang_of_unmarked {text : List Char} (h : ¬['#', '!'] <+: text) :
    takeHashbang text = (none, text) := by
  rw [takeHashbang]
  rintro rest rfl
  exact h ⟨rest, rfl⟩

/-- The line of an interpreter ends where a line ends. -/
lemma takeHashbang_append_line (text rest : List Char) :
    takeHashbang (text ++ '\n' :: rest) =
      ((takeHashbang text).1, (takeHashbang text).2 ++ '\n' :: rest) := by
  have line : ∀ cs : List Char,
      (cs ++ '\n' :: rest).takeWhile (!isLineBreak ·) = cs.takeWhile (!isLineBreak ·) ∧
        (cs ++ '\n' :: rest).dropWhile (!isLineBreak ·) =
          cs.dropWhile (!isLineBreak ·) ++ '\n' :: rest := by
    intro cs
    induction cs with
    | nil => exact ⟨rfl, rfl⟩
    | cons c cs ih =>
      cases ends : isLineBreak c <;> simp [ends, ih]
  by_cases marked : ['#', '!'] <+: text
  · obtain ⟨text, rfl⟩ := marked
    obtain ⟨taken, left⟩ := line text
    simp only [List.cons_append, List.nil_append, takeHashbang, taken, left]
  · have unmarked : ¬['#', '!'] <+: text ++ '\n' :: rest := by
      match text with
      | [] => simp
      | [c] => simp
      | c :: d :: text => simpa using marked
    rw [takeHashbang_of_unmarked marked, takeHashbang_of_unmarked unmarked]

/-- A statement that is no string ends the directives. -/
lemma takeDirectives_append {s : Stmt} (other : stringOf? s = none) (body rest : List Stmt) :
    takeDirectives (body ++ s :: rest) =
      ((takeDirectives body).1, (takeDirectives body).2 ++ s :: rest) := by
  induction body with
  | nil => simp [takeDirectives, other]
  | cons t body ih =>
    simp only [List.cons_append, takeDirectives]
    split
    · rw [ih]
    · rfl

end PlaceholderExports.Syntax
