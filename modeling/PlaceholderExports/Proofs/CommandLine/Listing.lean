import Mathlib
import PlaceholderExports.CommandLine.Run
import PlaceholderExports.Proofs.Json.Writing

/-!
# What a listing holds

A listing is a JSON document: an object whose members are the listed modules in their order, each
with its path as the key and an object as the value, which holds the names of the module as a list
of strings (`isDocument_listingText`). The lines and their indentation are blanks between the tokens
(`exists_separated_bracketed`).
-/

namespace PlaceholderExports.CommandLine

open Json

/-- The value of the classification of a module in a listing. -/
def classificationValue (c : Classification) : Value :=
  .object [(some "exportsWithNoValue", .list (c.names.map fun name => .string (some name)))]

/-! ### Lines between brackets -/

/-- Between the brackets there are the items, on lines of their own and separated by commas. -/
lemma exists_separated_bracketed {α : Type} {writes : α → List Char → Prop} {xs : List α}
    {items : List String} {indent : String}
    (written : List.Forall₂ (fun x (item : String) => writes x item.toList) xs items)
    (blank : AreBlanks indent.toList) (opening closing : String) :
    ∃ t, Separated writes xs t ∧
      (bracketed opening closing indent items).toList = opening.toList ++ t ++ closing.toList := by
  have line : AreBlanks "\n".toList := by simp [AreBlanks]
  have inner : AreBlanks (indent ++ "  ").toList := by
    rw [String.toList_append]
    exact blank.append (by simp [AreBlanks])
  have last : AreBlanks ("\n" ++ indent).toList := by
    rw [String.toList_append]
    exact line.append blank
  have lines : List.Forall₂ (fun x (item : String) => Separated writes [x] item.toList) xs
      (items.map (indent ++ "  " ++ ·)) := by
    refine List.forall₂_map_right_iff.2 (written.imp fun x item here => ?_)
    have padded := Separated.one inner here areBlanks_nil
    rwa [List.append_nil, ← String.toList_append] at padded
  unfold bracketed
  cases items with
  | nil =>
    cases written
    exact ⟨[], .none areBlanks_nil, by simp⟩
  | cons item items =>
    refine ⟨_, (separated_intercalate line lines).pad line last, ?_⟩
    rw [if_neg (by simp)]
    simp

/-! ### Values -/

/-- The names of a module are written as a list of strings. -/
lemma written_namesText (names : List String) :
    Value.Written (.list (names.map fun name => .string (some name))) (namesText names).toList := by
  have items : List.Forall₂ (fun v (item : String) => Value.Written v item.toList)
      (names.map fun name => .string (some name)) (names.map Text.quote) := by
    rw [List.forall₂_map_left_iff, List.forall₂_map_right_iff, List.forall₂_same]
    exact fun name _ => .string (isLiteral_quote name)
  obtain ⟨t, separated, text⟩ :=
    exists_separated_bracketed items (show AreBlanks "    ".toList by simp [AreBlanks]) "[" "]"
  unfold namesText
  rw [text]
  exact .list separated

/-- A member on its line, with a blank behind the colon. -/
lemma isMember_line {key text : String} {v : Value} (written : v.Written text.toList) :
    IsMember Value.Written (some key, v) (Text.quote key ++ ": " ++ text).toList := by
  have member := isMember_quote key (show AreBlanks [' '] by simp [AreBlanks]) written
  have line : (Text.quote key ++ ": " ++ text).toList =
      (Text.quote key).toList ++ ':' :: [' '] ++ text.toList := by simp
  rwa [line]

/-- The classification of a module is written as an object with its names. -/
lemma written_classificationText (c : Classification) :
    (classificationValue c).Written (classificationText c).toList := by
  have items : List.Forall₂
      (fun member (item : String) => IsMember Value.Written member item.toList)
      [(some "exportsWithNoValue", .list (c.names.map fun name => .string (some name)))]
      [Text.quote "exportsWithNoValue" ++ ": " ++ namesText c.names] :=
    .cons (isMember_line (written_namesText c.names)) .nil
  obtain ⟨t, separated, text⟩ :=
    exists_separated_bracketed items (show AreBlanks "  ".toList by simp [AreBlanks]) "\x7b" "\x7d"
  unfold classificationText
  rw [text]
  exact .object separated

/-- A listing is an object. Its members are the listed modules in their order, each under its path
with its names. -/
theorem isDocument_listingText (entries : List (FsPath × Classification)) :
    IsDocument
      (.object (entries.map fun (path, c) => (some path.text, classificationValue c)))
      (listingText entries) := by
  have items : List.Forall₂
      (fun member (item : String) => IsMember Value.Written member item.toList)
      (entries.map fun (path, c) => (some path.text, classificationValue c))
      (entries.map fun (path, c) => Text.quote path.text ++ ": " ++ classificationText c) := by
    rw [List.forall₂_map_left_iff, List.forall₂_map_right_iff, List.forall₂_same]
    exact fun (_, c) _ => isMember_line (written_classificationText c)
  obtain ⟨t, separated, text⟩ :=
    exists_separated_bracketed items (show AreBlanks "".toList from areBlanks_nil) "\x7b" "\x7d"
  refine ⟨[], _, [], areBlanks_nil, .object separated, areBlanks_nil, ?_⟩
  rw [List.nil_append, List.append_nil]
  exact text

end PlaceholderExports.CommandLine
