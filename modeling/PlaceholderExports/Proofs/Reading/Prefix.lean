import PlaceholderExports.Proofs.Reading.Scanning
import PlaceholderExports.Syntax.Reading

/-!
# Reading a text that goes on

What a reader does near the end of a text may depend on what follows. `Step.takeKnown` takes the
steps that do not, and gives up at the others. A run of such steps is then a run over every text
that goes on (`Reads.run_follows`): what it reads is read there, and what it refuses is refused.

The proof is one case for each form of reader. The steps are the only ones that look at the text,
and depths and numbers of repetitions that are greater are no harm (`Rules.level_follows`).
-/

namespace PlaceholderExports.Syntax

/-! ### Cursors in a text that goes on -/

namespace Cursor

/-- The current token is the same however the text goes on. -/
structure IsSettled (c : Cursor) : Prop where
  good : c.token.isFaulty = false
  long : 4 ≤ c.start.length
  known : c.rest ≠ []

instance (c : Cursor) : Decidable c.IsSettled :=
  decidable_of_iff (c.token.isFaulty = false ∧ 4 ≤ c.start.length ∧ c.rest ≠ [])
    ⟨fun ⟨good, long, known⟩ => ⟨good, long, known⟩, fun ⟨good, long, known⟩ => ⟨good, long, known⟩⟩

/-- The cursor at the same place of a text that goes on. -/
def followed (more : List Char) (c : Cursor) : Cursor :=
  { c with before := c.before ++ more, start := c.start ++ more, rest := c.rest ++ more }

/-- Two cursors stand at one place, the second one in a text that goes on. -/
def Extends (more : List Char) (c c' : Cursor) : Prop :=
  ∃ text newline openDefaults, c = .ofText text newline openDefaults ∧
    c' = .ofText (text ++ more) newline openDefaults

variable {more : List Char} {c c' : Cursor}

/-- The cursors at the start of a text and of the text that goes on stand at one place. -/
lemma extends_ofText (text more : List Char) (newline : Bool) (openDefaults : Nat) :
    Extends more (.ofText text newline openDefaults)
      (.ofText (text ++ more) newline openDefaults) :=
  ⟨text, newline, openDefaults, rfl, rfl⟩

/-- A settled token is the token of the text that goes on. -/
lemma Extends.eq_followed (h : Extends more c c') (settled : c.IsSettled) :
    c' = c.followed more := by
  obtain ⟨text, newline, openDefaults, rfl, rfl⟩ := h
  obtain ⟨good, long, known⟩ := settled
  simp only [ofText] at good long known
  have closed : ¬['/', '*'] <+: (skipTrivia .between newline text).1 := by
    rintro ⟨tail, same⟩
    rw [← same] at good
    cases good
  simp only [ofText, followed, skipTrivia_append (by omega) closed more,
    Token.scan_append good long known more]

/-- Counting defaults keeps two cursors at one place. -/
lemma Extends.count (h : Extends more c c') (change : Nat → Nat) :
    Extends more { c with openDefaults := change c.openDefaults }
      { c' with openDefaults := change c'.openDefaults } := by
  obtain ⟨text, newline, openDefaults, rfl, rfl⟩ := h
  exact ⟨text, newline, change openDefaults, rfl, rfl⟩

/-- At one place there is no less to read if the text goes on. -/
lemma Extends.length_before_le (h : Extends more c c') : c.before.length ≤ c'.before.length := by
  obtain ⟨text, newline, openDefaults, rfl, rfl⟩ := h
  simp [ofText]

end Cursor

/-! ### Known steps -/

/-- What is seen at a settled token is seen there in every text that goes on. -/
lemma Look.at_followed {α : Type} (what : Look α) {c : Cursor} (settled : c.IsSettled)
    (more : List Char) : what.at (c.followed more) = what.at c := by
  cases what with
  | token => rfl
  | newline => rfl
  | operator =>
    have short : ∀ op ∈ Cursor.angleOperators, op.toList.length ≤ 4 := by decide
    have same : ∀ op ∈ Cursor.angleOperators,
        (dropPrefix? op.toList (c.start ++ more)).isSome =
          (dropPrefix? op.toList c.start).isSome := by
      intro op mem
      rw [dropPrefix?_append ((short op mem).trans settled.long), Option.isSome_map]
    simp only [Look.at, Cursor.operator, Cursor.followed, List.find?_congr same]
  | comments isFirst =>
    have gap : (c.before ++ more).take ((c.before ++ more).length - (c.start ++ more).length) =
        c.before.take (c.before.length - c.start.length) := by
      rw [List.length_append, List.length_append, Nat.add_sub_add_right]
      exact List.take_append_of_le_length (Nat.sub_le _ _)
    simp only [Look.at, Cursor.comments, Cursor.followed, gap]

/-- Whether what is read is the same however the text goes on. A chunk of a template ends where it
says so, unless its escapes are faulty. -/
def Scan.isKnown {α : Type} : Scan α → α × List Char → Bool
  | chunk, ((_, valid, _), _) => valid
  | _, (_, rest) => !rest.isEmpty

/-- What is read at a settled token is read in every text that goes on. -/
lemma Scan.read_followed {α : Type} (what : Scan α) {c : Cursor} (settled : c.IsSettled) {a : α}
    {rest : List Char} (h : what.read c = some (a, rest)) (known : what.isKnown (a, rest) = true)
    (more : List Char) : what.read (c.followed more) = some (a, rest ++ more) := by
  have nonempty : ∀ {rest : List Char}, (!rest.isEmpty) = true → rest ≠ [] := by
    rintro _ isKnown rfl
    cases isKnown
  have drop : ∀ {n : Nat}, c.start.drop n ≠ [] →
      (c.start ++ more).drop n = c.start.drop n ++ more := by
    intro n goesOn
    refine List.drop_append_of_le_length (le_of_not_gt fun beyond => goesOn ?_)
    exact List.drop_eq_nil_of_le beyond.le
  cases what with
  | operator op =>
    cases h
    simp only [Scan.read, Cursor.followed]
    rw [drop (nonempty known)]
  | regex =>
    have slash : c.start.drop 1 ≠ [] := by
      intro none
      have := congrArg List.length none
      have := settled.long
      simp at *
      omega
    simp only [Scan.read, Cursor.followed]
    rw [drop slash]
    exact scanRegex_isLocal more _ h (nonempty known)
  | chunk =>
    obtain ⟨chunk, valid, isLast⟩ := a
    cases known
    exact scanTemplate_append h more
  | markupWord => exact scanMarkupWord_isLocal more _ h (nonempty known)
  | quotedValue => exact scanQuotedValue_isLocal more _ h (nonempty known)
  | markupText =>
    have read : scanMarkupText c.rest = (a, rest) := Option.some.inj h
    have goesOn : (scanMarkupText c.rest).2 ≠ [] := by
      rw [read]
      exact nonempty known
    simp only [Scan.read, Cursor.followed]
    rw [scanMarkupText_append goesOn, read]

/-- Takes a step if it is the same however the text goes on. -/
def Step.takeKnown {α : Type} : Step α → Cursor → Outcome α
  | look what, c => if c.IsSettled then .done (what.at c) c else .unknown
  | advance, c => if c.IsSettled then .done () c.advance else .unknown
  | scan what, c =>
    match what.read c with
    | some (a, rest) =>
      if c.IsSettled ∧ what.isKnown (a, rest) = true then .done a (c.jump rest) else .unknown
    | none => .unknown
  | count change, c => .done () { c with openDefaults := change c.openDefaults }

/-! ### Outcomes in a text that goes on -/

/-- The second outcome is what becomes of the first one when the text goes on. -/
def Outcome.Follows {α : Type} (more : List Char) : Outcome α → Outcome α → Prop
  | done a c, o => ∃ c', o = .done a c' ∧ c.Extends more c'
  | refused, o => o = .refused
  | unknown, _ => True

/-- A step that is known is taken in every text that goes on. -/
lemma Step.take_follows {α : Type} (s : Step α) {more : List Char} {c c' : Cursor}
    (h : c.Extends more c') : (s.takeKnown c).Follows more (s.take c') := by
  cases s with
  | look what =>
    simp only [takeKnown]
    split_ifs with settled
    · refine ⟨c', ?_, h⟩
      rw [h.eq_followed settled]
      simp only [take, what.at_followed settled]
    · trivial
  | advance =>
    simp only [takeKnown]
    split_ifs with settled
    · refine ⟨c'.advance, rfl, ?_⟩
      rw [h.eq_followed settled]
      exact Cursor.extends_ofText c.rest more false c.openDefaults
    · trivial
  | scan what =>
    simp only [takeKnown]
    split
    · rename_i a rest read
      split_ifs with known
      · obtain ⟨settled, known⟩ := known
        refine ⟨c'.jump (rest ++ more), ?_, ?_⟩
        · rw [h.eq_followed settled]
          simp only [take, what.read_followed settled read known]
        · rw [h.eq_followed settled]
          exact Cursor.extends_ofText rest more false c.openDefaults
      · trivial
    · trivial
  | count change => exact ⟨_, rfl, h.count change⟩

namespace Outcome

variable {α β : Type} {more : List Char} {o o' : Outcome α} {c c' : Cursor}

/-- Two steps are followed if each of them is. -/
lemma Follows.andThen (h : o.Follows more o') {next next' : α → Cursor → Outcome β}
    (goesOn : ∀ a c c', c.Extends more c' → (next a c).Follows more (next' a c')) :
    (o.andThen next).Follows more (o'.andThen next') := by
  cases o with
  | done a c =>
    obtain ⟨c', rfl, places⟩ := h
    exact goesOn a c c' places
  | refused =>
    cases h
    rfl
  | unknown => trivial

/-- An attempt is followed if what it tries is. -/
lemma Follows.attempt (h : o.Follows more o') (here : c.Extends more c') :
    (o.attempt c).Follows more (o'.attempt c') := by
  cases o with
  | done a d =>
    obtain ⟨d', rfl, places⟩ := h
    exact ⟨d', rfl, places⟩
  | refused =>
    cases h
    exact ⟨c', rfl, here⟩
  | unknown => trivial

/-- A look ahead is followed if what it reads is. -/
lemma Follows.lookahead (h : o.Follows more o') (here : c.Extends more c') (otherwise : α) :
    (o.lookahead c otherwise).Follows more (o'.lookahead c' otherwise) := by
  cases o with
  | done a d =>
    obtain ⟨d', rfl, places⟩ := h
    exact ⟨c', rfl, here⟩
  | refused =>
    cases h
    exact ⟨c', rfl, here⟩
  | unknown => trivial

/-- More repetitions may be allowed where the text goes on. -/
lemma extend_follows {next next' : α → Cursor → Outcome (Option α)}
    (goesOn : ∀ a c c', c.Extends more c' → (next a c).Follows more (next' a c'))
    {fuel fuel' : Nat} (enough : fuel ≤ fuel') (a : α) (here : c.Extends more c') :
    (extend next fuel a c).Follows more (extend next' fuel' a c') := by
  induction fuel generalizing a c c' fuel' with
  | zero => trivial
  | succ fuel ih =>
    obtain ⟨fuel', rfl⟩ := Nat.exists_eq_add_of_le' (Nat.one_le_of_lt enough)
    refine (goesOn a c c' here).andThen fun found d d' places => ?_
    cases found with
    | none => exact ⟨d', rfl, places⟩
    | some b => exact ih (Nat.le_of_succ_le_succ enough) b places

end Outcome

/-! ### Runs in a text that goes on -/

/-- The second rules read what the first ones read and refuse what they refuse when the text goes
on. -/
def Rules.Follow (more : List Char) (rules rules' : Rules) : Prop :=
  ∀ {α : Type} (rule : Rule α) (ctx : Circumstances) {c c' : Cursor}, c.Extends more c' →
    (rules.read rule ctx c).Follows more (rules'.read rule ctx c')

/-- A run of known steps is a run over every text that goes on. -/
theorem Reads.run_follows {more : List Char} {rules rules' : Rules}
    (nested : Rules.Follow more rules rules') {α : Type} (p : Reads α) (ctx : Circumstances)
    {c c' : Cursor} (here : c.Extends more c') :
    (p.run ⟨Step.takeKnown⟩ rules ctx c).Follows more (p.run ⟨Step.take⟩ rules' ctx c') := by
  induction p generalizing ctx c c' with
  | give a => exact ⟨c', rfl, here⟩
  | andThen p next ihp ihnext =>
    exact (ihp ctx here).andThen fun a d d' places => ihnext a ctx places
  | refuse => rfl
  | circumstances => exact ⟨c', rfl, here⟩
  | within change p ih => exact ih (change ctx) here
  | step s => exact s.take_follows here
  | attempt p ih => exact (ih ctx here).attempt here
  | lookahead otherwise p ih => exact (ih ctx here).lookahead here otherwise
  | extend next a ih =>
    exact Outcome.extend_follows (fun a d d' places => ih a ctx places)
      (Nat.succ_le_succ here.length_before_le) a here
  | nested rule => exact nested rule ctx here

/-- Rules for greater depths follow those for lesser ones. -/
lemma Rules.level_follows (more : List Char) {n n' : Nat} (deeper : n ≤ n') :
    Rules.Follow more (.level ⟨Step.takeKnown⟩ n) (.level ⟨Step.take⟩ n') := by
  induction n generalizing n' with
  | zero =>
    intro α rule ctx c c' here
    trivial
  | succ n ih =>
    obtain ⟨n', rfl⟩ := Nat.exists_eq_add_of_le' (Nat.one_le_of_lt deeper)
    intro α rule ctx c c' here
    exact Reads.run_follows (ih (Nat.le_of_succ_le_succ deeper)) rule.reader ctx here

end PlaceholderExports.Syntax
