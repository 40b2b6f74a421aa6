import Mathlib
import PlaceholderExports.Plugin

/-!
# Valid configurations

A configuration without a fault lists an extension, all its extensions start with a dot, and its
placeholder name is a valid one (`Config.fault?_eq_none_iff`). The faults are looked for in this
order, but whether there is one does not depend on it. A valid configuration makes a plugin
(`Plugin.ofConfig_of_valid`).
-/

namespace PlaceholderExports

/-- What a valid configuration satisfies. -/
structure Config.IsValid (c : Config) : Prop where
  input_ne_nil : c.input ≠ []
  startsWithDot : ∀ extension ∈ c.input, startsWithDot extension = true
  isValidName : Placeholder.isValidName c.placeholderName = true

/-- A configuration has no fault if it is valid. -/
lemma Config.fault?_eq_none_iff {c : Config} : c.fault? = none ↔ c.IsValid := by
  unfold fault?
  constructor
  · intro faultless
    split at faultless
    · cases faultless
    · next listed =>
      split at faultless
      · cases faultless
      · next dotted =>
        split at faultless
        · next name =>
          refine ⟨fun none => listed (List.isEmpty_iff.2 none), fun extension mem => ?_, name⟩
          simpa using List.find?_eq_none.1 dotted extension mem
        · cases faultless
  · intro valid
    have dotted : (c.input.find? fun e => !Config.startsWithDot e) = none := by
      rw [List.find?_eq_none]
      intro extension mem
      rw [valid.startsWithDot extension mem]
      decide
    rw [if_neg (mt List.isEmpty_iff.1 valid.input_ne_nil), dotted]
    exact if_pos valid.isValidName

/-- Valid settings make a plugin. -/
lemma Plugin.ofConfig_of_valid {config : Config} {language : Frontend}
    (valid : config.fault? = none) :
    Plugin.ofConfig config language = .ok ⟨config, language, valid⟩ := by
  unfold Plugin.ofConfig
  split
  · rfl
  next fault refused => cases valid.symm.trans refused

end PlaceholderExports
