import PlaceholderExports.Config
import PlaceholderExports.Prepared
import PlaceholderExports.Proofs.Placeholder.Freshness

/-!
# Valid placeholder names

A number after a dollar sign keeps a name valid: its characters may stand in a name, and no word of
the language has a dollar sign in it. So the name that is found for a valid base name is valid too,
and it is the base name or has the least free number (`identifier_leastFree`).

A valid name is meant to be one that a constant of a module may have (`IsBindable`). The words that
count as reserved are not all of those that are: a name is valid if it is bindable or one of eight
words that have been overlooked (`isValidName_iff_bindable`). A configuration with such a word is
accepted, and no export can be given its placeholder (`implements_accepted`).
-/

namespace PlaceholderExports.Placeholder

/-! ### Numbers -/

/-- A numbered name has a dollar sign. -/
lemma dollar_mem_numbered (base : String) (n : Nat) : '$' ∈ (numbered base n).toList := by
  unfold numbered
  rw [String.toList_append, String.toList_append]
  exact List.mem_append_left _ (List.mem_append_right _ List.mem_cons_self)

/-- A numbered name is none of some words without a dollar sign. -/
lemma numbered_notMem {words : List String} (plain : ∀ word ∈ words, '$' ∉ word.toList)
    (base : String) (n : Nat) : numbered base n ∉ words :=
  fun mem => plain _ mem (dollar_mem_numbered base n)

/-- An identifier name with a number is an identifier name. -/
lemma isIdentifierName_numbered {base : String} (h : Text.isIdentifierName base = true) (n : Nat) :
    Text.isIdentifierName (numbered base n) = true := by
  obtain ⟨c, rest, chars, start, parts⟩ := Text.isIdentifierName_iff.1 h
  have digits : (toString n).toList = Nat.toDigits 10 n := String.toList_ofList
  have whole : (numbered base n).toList = c :: (rest ++ '$' :: Nat.toDigits 10 n) := by
    unfold numbered
    rw [String.toList_append, String.toList_append, chars, digits, List.append_assoc]
    rfl
  refine Text.isIdentifierName_iff.2 ⟨c, _, whole, start, fun d mem => ?_⟩
  rcases List.mem_append.1 mem with mem | mem
  · exact parts d mem
  · rcases List.mem_cons.1 mem with rfl | mem
    · rfl
    · have digit : d.isDigit = true := Nat.isDigit_of_mem_toDigits (by decide) (by decide) mem
      exact Text.isIdentifierPart_of_isDigit digit

/-- A name is valid if it is an identifier and no reserved word. -/
lemma isValidName_iff {name : String} :
    isValidName name = true ↔ Text.isIdentifierName name = true ∧ name ∉ reservedWords := by
  simp [isValidName]

/-- A valid name with a number is valid. -/
lemma isValidName_numbered {base : String} (valid : isValidName base = true) (n : Nat) :
    isValidName (numbered base n) = true := by
  obtain ⟨name, -⟩ := isValidName_iff.1 valid
  exact isValidName_iff.2 ⟨isIdentifierName_numbered name n, numbered_notMem (by decide) base n⟩

/-- The name that is found for a valid base name is valid. -/
lemma isValidName_identifier {base : String} (valid : isValidName base = true)
    (reserved : NameSet) : isValidName (identifier base reserved) = true := by
  obtain same | ⟨n, same⟩ := exists_identifier base reserved
  · rw [same]
    exact valid
  · rw [same]
    exact isValidName_numbered valid n

/-- The name that is found is never reserved. It is the base name if that is free, and otherwise the
base name with the least free number. That number is at most that of the reserved names, and every
search that tries so many numbers ends there. The name is valid if the base name is. -/
theorem identifier_leastFree (base : String) (reserved : NameSet) :
    identifier base reserved ∉ reserved ∧
      (base ∉ reserved ∧ identifier base reserved = base ∨
        base ∈ reserved ∧ ∃ n, IsLeastFree base reserved n ∧ n ≤ reserved.toList.length ∧
          identifier base reserved = base ++ "$" ++ toString n ∧
          ∀ tries, n ≤ tries →
            firstFree base reserved tries 1 = some (identifier base reserved)) ∧
      (isValidName base = true → isValidName (identifier base reserved) = true) := by
  refine ⟨identifier_notMem base reserved, ?_, fun valid => isValidName_identifier valid reserved⟩
  by_cases taken : base ∈ reserved
  · obtain ⟨n, le, leastFree, same⟩ := identifier_of_mem taken
    refine .inr ⟨taken, n, leastFree, le, same, fun tries enough => ?_⟩
    rw [same]
    exact leastFree.firstFree_eq enough
  · exact .inl ⟨taken, identifier_of_notMem taken⟩

/-- A base name that is reserved with the numbers one and three. -/
theorem identifier_leastFree_gap :
    let reserved := NameSet.ofList ["fake", "fake$3", "fake$1", "fake$01"]
    identifier "fake" reserved = "fake$2" ∧ isValidName (identifier "fake" reserved) = true := by
  intro reserved
  obtain ⟨-, -, valid⟩ := identifier_leastFree "fake" reserved
  exact ⟨by decide, valid (by decide +kernel)⟩

/-! ### Names of constants -/

/-- The names that strict code, such as a module, cannot give to anything. -/
def restrictedNames : List String := ["eval", "arguments"]

/-- The names that a constant of a module may have: identifier names that are no reserved words,
also not in strict code, and are not restricted there. -/
structure IsBindable (name : String) : Prop where
  isName : Text.isIdentifierName name = true
  notReserved : name ∉ Syntax.reservedWords
  notStrict : name ∉ Syntax.Grammar.strictWords
  notRestricted : name ∉ restrictedNames

/-- The valid names that no constant of a module may have. -/
def overlookedWords : List String :=
  ["implements", "interface", "package", "private", "protected", "public", "eval", "arguments"]

/-- The words that no constant may have as a name are the reserved ones and those that have been
overlooked. -/
lemma mem_words_iff {name : String} :
    name ∈ reservedWords ++ overlookedWords ↔
      name ∈ Syntax.reservedWords ++ (Syntax.Grammar.strictWords ++ restrictedNames) := by
  have there : ∀ word ∈ reservedWords ++ overlookedWords,
      word ∈ Syntax.reservedWords ++ (Syntax.Grammar.strictWords ++ restrictedNames) := by decide
  have back : ∀ word ∈ Syntax.reservedWords ++ (Syntax.Grammar.strictWords ++ restrictedNames),
      word ∈ reservedWords ++ overlookedWords := by decide
  exact ⟨there name, back name⟩

/-- A name can be bound if it is valid and none of the words that the check overlooks. -/
lemma isBindable_iff {name : String} :
    IsBindable name ↔ isValidName name = true ∧ name ∉ overlookedWords := by
  have words := not_congr (@mem_words_iff name)
  simp only [List.mem_append, not_or] at words
  rw [isValidName_iff]
  constructor
  · rintro ⟨isName, notReserved, notStrict, notRestricted⟩
    obtain ⟨reserved, overlooked⟩ := words.2 ⟨notReserved, notStrict, notRestricted⟩
    exact ⟨⟨isName, reserved⟩, overlooked⟩
  · rintro ⟨⟨isName, reserved⟩, overlooked⟩
    obtain ⟨notReserved, notStrict, notRestricted⟩ := words.1 ⟨reserved, overlooked⟩
    exact ⟨isName, notReserved, notStrict, notRestricted⟩

/-- A valid name with a number is bindable, also if the name is a word that has been overlooked. -/
lemma isBindable_numbered {base : String} (valid : isValidName base = true) (n : Nat) :
    IsBindable (numbered base n) :=
  isBindable_iff.2 ⟨isValidName_numbered valid n, numbered_notMem (by decide) base n⟩

/-- The name that is found for a valid base name is bindable, unless it is an overlooked word. -/
lemma isBindable_identifier_iff {base : String} (valid : isValidName base = true)
    (reserved : NameSet) :
    IsBindable (identifier base reserved) ↔ base ∉ overlookedWords ∨ base ∈ reserved := by
  by_cases taken : base ∈ reserved
  · obtain ⟨n, -, -, same⟩ := identifier_of_mem taken
    rw [same]
    exact iff_of_true (isBindable_numbered valid n) (.inr taken)
  · rw [identifier_of_notMem taken, isBindable_iff]
    constructor
    · rintro ⟨-, notOverlooked⟩
      exact .inl notOverlooked
    · intro free
      exact ⟨valid, free.resolve_right taken⟩

/-- The placeholder name of a valid configuration is valid. -/
lemma isValidName_of_fault? {c : Config} (valid : c.fault? = none) :
    isValidName c.placeholderName = true := by
  unfold Config.fault? at valid
  split at valid
  · cases valid
  · split at valid
    · cases valid
    · split at valid
      · assumption
      · cases valid

/-- The names that are valid are the bindable ones and eight words that have been overlooked: only
for those it does not follow from being valid that a name is bindable. So under a valid
configuration the placeholder of a module has a bindable name if and only if the name that is
configured is none of these words, or the module makes it take a number. -/
theorem isValidName_iff_bindable (name : String) :
    (isValidName name = true ↔ IsBindable name ∨ name ∈ overlookedWords) ∧
      ((isValidName name = true → IsBindable name) ↔ name ∉ overlookedWords) ∧
      ∀ c : Config, c.placeholderName = name → c.fault? = none → ∀ reserved : NameSet,
        IsBindable (identifier c.placeholderName reserved) ↔
          name ∉ overlookedWords ∨ name ∈ reserved := by
  have overlooked : name ∈ overlookedWords → isValidName name = true := by
    have each : ∀ word ∈ overlookedWords, isValidName word = true := by decide +kernel
    exact each name
  refine ⟨?valid, ?follows, ?configured⟩
  case valid =>
    rw [isBindable_iff]
    constructor
    · intro valid
      by_cases mem : name ∈ overlookedWords
      · exact .inr mem
      · exact .inl ⟨valid, mem⟩
    · rintro (⟨valid, -⟩ | mem)
      · exact valid
      · exact overlooked mem
  case follows =>
    rw [isBindable_iff]
    constructor
    · intro follows mem
      exact (follows (overlooked mem)).2 mem
    · intro notOverlooked valid
      exact ⟨valid, notOverlooked⟩
  case configured =>
    rintro c rfl faultless reserved
    exact isBindable_identifier_iff (isValidName_of_fault? faultless) reserved

/-- A configuration with a name of its own, and one with an overlooked word in a module that uses
the word. -/
theorem isValidName_iff_bindable_taken :
    let own : Config := { placeholderName := "$fake" }
    let overlooked : Config := { placeholderName := "eval" }
    (own.fault? = none ∧ IsBindable (identifier own.placeholderName {})) ∧
      overlooked.fault? = none ∧
      IsBindable (identifier overlooked.placeholderName (NameSet.ofList ["eval"])) := by
  intro own overlooked
  have ownValid : own.fault? = none := by decide +kernel
  have overlookedValid : overlooked.fault? = none := by decide +kernel
  obtain ⟨-, -, configured⟩ := isValidName_iff_bindable "$fake"
  obtain ⟨-, -, configured'⟩ := isValidName_iff_bindable "eval"
  exact ⟨⟨ownValid, (configured own rfl ownValid {}).2 (.inl (by decide))⟩, overlookedValid,
    (configured' overlooked rfl overlookedValid _).2 (.inr (by decide))⟩

/-- A word that is reserved in strict code is a valid name, and a configuration with it is accepted.
A module that is prepared with it is no module any more. -/
theorem implements_accepted :
    isValidName "implements" = true ∧ ¬ IsBindable "implements" ∧
      ({ placeholderName := "implements" } : Config).fault? = none ∧
      ∃ prepared, Frontend.typeScript.prepare .plain "implements" ⟨"/a.ts"⟩ "export type A = 1;" =
          .ok prepared ∧
        prepared.source =
          "export type A = 1;\nconst implements = null;\nexport \x7b implements as A \x7d;" ∧
        (Frontend.typeScript.reduce .plain prepared.source).isOk = false := by
  have reserved : ¬ IsBindable "implements" := fun h => h.notStrict (by decide)
  refine ⟨by decide +kernel, reserved, by decide +kernel, _, rfl, ?_, ?_⟩
  · decide +kernel
  · decide +kernel

end PlaceholderExports.Placeholder
