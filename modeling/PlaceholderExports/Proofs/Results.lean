import Mathlib

/-!
# Results

A result that is computed in steps is there if each step has one (`bind_eq_ok`), and a list that is
computed element by element has one for each of them (`forall₂_of_mapM`).
-/

namespace PlaceholderExports

variable {ε α β : Type} {x : Except ε α} {b : β}

/-- A result comes from two steps if it comes from the second after the first. -/
lemma bind_eq_ok {f : α → Except ε β} : (x >>= f) = .ok b ↔ ∃ a, x = .ok a ∧ f a = .ok b := by
  cases x with
  | error e => exact iff_of_false nofun fun ⟨_, failed, _⟩ => nomatch failed
  | ok a =>
    constructor
    · exact fun step => ⟨a, rfl, step⟩
    · rintro ⟨_, ⟨⟩, step⟩
      exact step

/-- A changed result is a success if the result is one. -/
lemma map_eq_ok {f : α → β} : f <$> x = .ok b ↔ ∃ a, x = .ok a ∧ b = f a := by
  cases x with
  | error e => exact iff_of_false nofun fun ⟨_, failed, _⟩ => nomatch failed
  | ok a =>
    constructor
    · rintro ⟨⟩
      exact ⟨a, rfl, rfl⟩
    · rintro ⟨_, ⟨⟩, rfl⟩
      rfl

/-- The results of a list belong to its elements one by one. -/
lemma forall₂_of_mapM {f : α → Except ε β} {as : List α} {bs : List β}
    (computed : as.mapM f = .ok bs) : List.Forall₂ (fun a b => f a = .ok b) as bs := by
  induction as generalizing bs with
  | nil =>
    cases computed
    exact .nil
  | cons a as ih =>
    rw [List.mapM_cons] at computed
    obtain ⟨b, first, computed⟩ := bind_eq_ok.1 computed
    obtain ⟨bs', more, computed⟩ := bind_eq_ok.1 computed
    cases computed
    exact .cons first (ih more)

end PlaceholderExports
