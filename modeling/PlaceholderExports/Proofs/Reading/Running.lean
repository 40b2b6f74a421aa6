import Mathlib.Tactic.Common
import PlaceholderExports.Syntax.Reading

/-!
# What readers do at a known token

One equation for each way of putting readers together and for each of the small readers. With the
tokens known, they carry a reader out by rewriting. The congruence rules keep the rewriting at what
is read next, and away from what is read after it.
-/

namespace PlaceholderExports.Syntax

variable {α β : Type}

namespace Outcome

/-- What comes next depends on the outcome only. -/
@[congr]
lemma andThen_congr {o o' : Outcome α} (h : o = o') (next : α → Cursor → Outcome β) :
    o.andThen next = o'.andThen next := by rw [h]

/-- After a success comes what is next. -/
@[simp]
lemma done_andThen (a : α) (c : Cursor) (next : α → Cursor → Outcome β) :
    (done a c).andThen next = next a c := rfl

/-- After a refusal comes nothing. -/
@[simp]
lemma refused_andThen (next : α → Cursor → Outcome β) :
    (refused : Outcome α).andThen next = .refused := rfl

/-- A look ahead gives what it read and stays where it is. -/
@[simp]
lemma lookahead_done (a otherwise : α) (c here : Cursor) :
    (done a c).lookahead here otherwise = .done a here := rfl

/-- A look ahead that is refused gives the other value and stays where it is. -/
@[simp]
lemma lookahead_refused (otherwise : α) (here : Cursor) :
    (refused : Outcome α).lookahead here otherwise = .done otherwise here := rfl

/-- A repetition goes on while there is more. -/
lemma extend_of_some {next : α → Cursor → Outcome (Option α)} {a b : α} {c d : Cursor}
    (h : next a c = .done (some b) d) (fuel : Nat) :
    extend next (fuel + 1) a c = extend next fuel b d := by
  rw [extend, h]
  rfl

/-- A repetition ends where there is no more. -/
lemma extend_of_none {next : α → Cursor → Outcome (Option α)} {a : α} {c d : Cursor}
    (h : next a c = .done none d) (fuel : Nat) : extend next (fuel + 1) a c = .done a d := by
  rw [extend, h]
  rfl

end Outcome

section Forms

variable {walk : Walk} {rules : Rules} {ctx : Circumstances} {c : Cursor}

/-- A reader does the same at the same cursor. -/
@[congr]
lemma Reads.run_congr {c c' : Cursor} (h : c = c') (p : Reads α) :
    p.run walk rules ctx c = p.run walk rules ctx c' := by rw [h]

/-- Two readers run one after the other. -/
@[simp]
lemma run_bind (p : Reads α) (next : α → Reads β) :
    (p >>= next).run walk rules ctx c =
      (p.run walk rules ctx c).andThen fun a c => (next a).run walk rules ctx c := rfl

/-- A reader that gives a value reads nothing. -/
@[simp]
lemma run_pure (a : α) : (pure a : Reads α).run walk rules ctx c = .done a c := rfl

/-- A reader whose value is changed runs as before. -/
@[simp]
lemma run_map (f : α → β) (p : Reads α) :
    (f <$> p).run walk rules ctx c = (p.run walk rules ctx c).andThen fun a c => .done (f a) c :=
      rfl

/-- One of two readers runs. -/
@[simp]
lemma run_ite (b : Prop) [Decidable b] (p q : Reads α) :
    (if b then p else q).run walk rules ctx c =
      if b then p.run walk rules ctx c else q.run walk rules ctx c := by
  split_ifs <;> rfl

/-- A refusal is an outcome. -/
@[simp]
lemma run_refuse : (refuse : Reads α).run walk rules ctx c = .refused := rfl

/-- The circumstances are those that a reader runs in. -/
@[simp]
lemma run_read : (read : Reads Circumstances).run walk rules ctx c = .done ctx c := rfl

/-- A reader runs in changed circumstances. -/
@[simp]
lemma run_within (change : Circumstances → Circumstances) (p : Reads α) :
    (within change p).run walk rules ctx c = p.run walk rules (change ctx) c := rfl

/-- A look ahead runs its reader and stays where it is. -/
@[simp]
lemma run_lookahead (otherwise : α) (p : Reads α) :
    (lookahead otherwise p).run walk rules ctx c =
      (p.run walk rules ctx c).lookahead c otherwise := rfl

/-- A condition is met or refused. -/
@[simp]
lemma run_require (b : Bool) :
    (require b).run walk rules ctx c = if b then .done () c else .refused := by
  cases b <;> rfl

/-- The second test is made only if the first one succeeds. -/
@[simp]
lemma run_and (p q : Reads Bool) :
    (p <&&> q).run walk rules ctx c = (p.run walk rules ctx c).andThen fun b c =>
      if b then q.run walk rules ctx c else .done false c := by
  change (p.run walk rules ctx c).andThen _ = _
  congr
  funext b c
  cases b <;> rfl

end Forms

section Tokens

variable (n text : String) (texts : List String)

/-- A name without escapes is the word that it spells. -/
@[simp]
lemma Token.isWord_name : (name n false).isWord text = (n == text) := rfl

/-- A punctuator is no word. -/
@[simp]
lemma Token.isWord_punct : (punct n).isWord text = false := rfl

/-- A name without escapes is one of the words if it spells one. -/
@[simp]
lemma Token.isWordOf_name : (name n false).isWordOf texts = texts.contains n := rfl

/-- A punctuator is the one that it spells. -/
@[simp]
lemma Token.isPunct_punct : (punct n).isPunct text = (n == text) := rfl

/-- A name is no punctuator. -/
@[simp]
lemma Token.isPunct_name (escaped : Bool) : (name n escaped).isPunct text = false := rfl

end Tokens

section Steps

variable {rules : Rules} {ctx : Circumstances} {c : Cursor}

/-- Advancing moves the cursor behind the token. -/
@[simp]
lemma run_advance : advance.run ⟨Step.take⟩ rules ctx c = .done () c.advance := rfl

/-- The token is that at the cursor. -/
@[simp]
lemma run_token : token.run ⟨Step.take⟩ rules ctx c = .done c.token c := rfl

/-- A line break in front of the token is known at the cursor. -/
@[simp]
lemma run_afterNewline : afterNewline.run ⟨Step.take⟩ rules ctx c = .done c.newline c := rfl

/-- The comments in front of the token are known at the cursor. -/
@[simp]
lemma run_comments (isFirst : Bool) :
    (.step (.look (.comments isFirst)) : Reads (List Comment)).run ⟨Step.take⟩ rules ctx c =
      .done (c.comments isFirst) c := rfl

/-- A punctuator is known by the token. -/
@[simp]
lemma run_atPunct (text : String) :
    (atPunct text).run ⟨Step.take⟩ rules ctx c = .done (c.token.isPunct text) c := rfl

/-- One of some punctuators is known by the token. -/
@[simp]
lemma run_atPunctOf (texts : List String) :
    (atPunctOf texts).run ⟨Step.take⟩ rules ctx c = .done (c.token.isPunctOf texts) c := rfl

/-- A word is known by the token. -/
@[simp]
lemma run_atWord (text : String) :
    (atWord text).run ⟨Step.take⟩ rules ctx c = .done (c.token.isWord text) c := rfl

/-- One of some words is known by the token. -/
@[simp]
lemma run_atWordOf (texts : List String) :
    (atWordOf texts).run ⟨Step.take⟩ rules ctx c = .done (c.token.isWordOf texts) c := rfl

/-- A condition on the next token is met one token further on. -/
@[simp]
lemma run_nextIs (p : Reads Bool) :
    (nextIs p).run ⟨Step.take⟩ rules ctx c =
      (p.run ⟨Step.take⟩ rules ctx c.advance).lookahead c false := rfl

/-- A token is taken if the condition is met. -/
@[simp]
lemma run_eatIf (p : Reads Bool) :
    (eatIf p).run ⟨Step.take⟩ rules ctx c = (p.run ⟨Step.take⟩ rules ctx c).andThen fun b c =>
      .done b (if b then c.advance else c) := by
  change (p.run _ rules ctx c).andThen _ = _
  congr
  funext b c
  cases b <;> rfl

/-- A punctuator is taken if it is there. -/
@[simp]
lemma run_eat (text : String) :
    (eat text).run ⟨Step.take⟩ rules ctx c =
      .done (c.token.isPunct text) (if c.token.isPunct text then c.advance else c) := by
  rw [eat, run_eatIf, run_atPunct, Outcome.done_andThen]

/-- A word is taken if it is there. -/
@[simp]
lemma run_eatWord (text : String) :
    (eatWord text).run ⟨Step.take⟩ rules ctx c =
      .done (c.token.isWord text) (if c.token.isWord text then c.advance else c) := by
  rw [eatWord, run_eatIf, run_atWord, Outcome.done_andThen]

/-- A semicolon is taken. -/
@[simp]
lemma run_semicolon (h : c.token = .punct ";") :
    semicolon.run ⟨Step.take⟩ rules ctx c = .done () c.advance := by
  simp [semicolon, h]

end Steps

/-! ### Repetition -/

section Repetition

variable {rules : Rules} {ctx : Circumstances} {item : Reads (Option α)} {c d : Cursor}

/-- From one cursor to another one an item reader reads some items, and then says that there are no
more. -/
inductive Gathers (rules : Rules) (ctx : Circumstances) (item : Reads (Option α)) :
    Cursor → List α → Cursor → Prop
  | stop {c d : Cursor} (ends : item.run ⟨Step.take⟩ rules ctx c = .done none d) :
      Gathers rules ctx item c [] d
  | more {c d e : Cursor} {a : α} {as : List α}
      (first : item.run ⟨Step.take⟩ rules ctx c = .done (some a) d)
      (others : Gathers rules ctx item d as e) : Gathers rules ctx item c (a :: as) e

/-- A repetition collects all items, if there are enough rounds. -/
lemma Gathers.extend {as : List α} (h : Gathers rules ctx item c as d) {fuel : Nat}
    (enough : as.length < fuel) (found : List α) :
    Outcome.extend (fun found c =>
      (Option.map (· :: found) <$> item).run ⟨Step.take⟩ rules ctx c) fuel found c =
        .done (as.reverse ++ found) d := by
  induction h generalizing fuel found with
  | @stop c d ends =>
    obtain ⟨fuel, rfl⟩ := Nat.exists_eq_add_of_le' (Nat.one_le_of_lt enough)
    apply Outcome.extend_of_none
    rw [run_map, ends]
    rfl
  | @more c d _ a as first others ih =>
    obtain ⟨fuel, rfl⟩ := Nat.exists_eq_add_of_le' (Nat.one_le_of_lt enough)
    have step : (Option.map (· :: found) <$> item).run ⟨Step.take⟩ rules ctx c =
        .done (some (a :: found)) d := by
      rw [run_map, first]
      rfl
    rw [Outcome.extend_of_some step, ih (Nat.lt_of_succ_lt_succ enough), List.reverse_cons,
      List.append_assoc, List.singleton_append]

/-- The items that are gathered are read if there is a character for each of them. -/
lemma run_many {as : List α} (h : Gathers rules ctx item c as d)
    (enough : as.length ≤ c.before.length) :
    (many item).run ⟨Step.take⟩ rules ctx c = .done as d := by
  have steps := h.extend (Nat.lt_succ_of_le enough) []
  rw [many, run_map]
  change Outcome.andThen (Outcome.extend _ _ _ _) _ = _
  rw [steps]
  simp

/-- There may be no items. -/
lemma run_many_nil (h : item.run ⟨Step.take⟩ rules ctx c = .done none d) :
    (many item).run ⟨Step.take⟩ rules ctx c = .done [] d :=
  run_many (.stop h) (Nat.zero_le _)

end Repetition

section Lists

variable {rules : Rules} {ctx : Circumstances} {item : Reads α} {close : String} {c d : Cursor}
  {a : α}

/-- A closing punctuator ends a list. -/
lemma run_itemUntil_close (h : c.token = .punct close) :
    (itemUntil close item).run ⟨Step.take⟩ rules ctx c = .done none c.advance := by
  simp [itemUntil, h]

/-- An item is read where the list does not end. -/
lemma run_itemUntil (h : c.token.isPunct close = false)
    (reads : item.run ⟨Step.take⟩ rules ctx c = .done a d) :
    (itemUntil close item).run ⟨Step.take⟩ rules ctx c = .done (some a) d := by
  simp [itemUntil, h, reads]

/-- The last item of a list needs no comma. -/
lemma run_itemWithComma_close (reads : item.run ⟨Step.take⟩ rules ctx c = .done a d)
    (h : d.token = .punct close) :
    (itemWithComma close item).run ⟨Step.take⟩ rules ctx c = .done a d := by
  simp [itemWithComma, reads, h]

/-- An item is read with the comma behind it. -/
lemma run_itemWithComma (reads : item.run ⟨Step.take⟩ rules ctx c = .done a d)
    (h : d.token = .punct ",") (other : close ≠ ",") :
    (itemWithComma close item).run ⟨Step.take⟩ rules ctx c = .done a d.advance := by
  simp [itemWithComma, expect, reads, h, other.symm]

end Lists

end PlaceholderExports.Syntax
