import Mathlib
import PlaceholderExports.Loader
import PlaceholderExports.Proofs.FsPath.SlashForm
import PlaceholderExports.Proofs.Plugin.EntryPoints

/-!
# Functions on texts and the plugin

The functions on texts take the dialect from a path as it is written, the plugin takes it from the
path in slash form. The two dialects differ exactly for the paths that are misread: those that end
in `x` and lose their extension in slash form (`ofText_eq_ofPath_iff`). For all other paths the
functions on texts are those of the plugin with the default settings (`textFunctions_agree`).
-/

namespace PlaceholderExports

open FsPath

/-- Whether a path ends in `x` and has an extension as it is written, but none in slash form. -/
structure IsMisread (path : String) : Prop where
  last : path.toList.getLast? = some 'x'
  written : extname path ≠ ""
  lost : extname (FsPath.normalize path).text = ""

/-- The dialect of a path has markup if the path has an extension and ends in `x`. -/
lemma ofText_eq_markup (path : String) :
    ScriptVariant.ofText path = .markup ↔
      path.toList.getLast? = some 'x' ∧ extname path ≠ "" := by
  unfold ScriptVariant.ofText ScriptVariant.ofExtension
  by_cases none : extname path = ""
  · rw [none]
    exact ⟨nofun, fun h => absurd rfl h.2⟩
  · rw [getLast?_extname none]
    by_cases last : path.toList.getLast? = some 'x'
    · rw [if_pos last]
      exact ⟨fun _ => ⟨last, none⟩, fun _ => rfl⟩
    · rw [if_neg last]
      exact ⟨nofun, fun h => absurd h.1 last⟩

/-- The dialects of a path as it is written and in slash form differ if the path is misread. -/
theorem ofText_eq_ofPath_iff (path : String) :
    ScriptVariant.ofText path = .ofPath (.normalize path) ↔ ¬ IsMisread path := by
  have written := ofText_eq_markup path
  have slashForm : ScriptVariant.ofPath (.normalize path) = .markup ↔
      path.toList.getLast? = some 'x' ∧ extname (FsPath.normalize path).text ≠ "" := by
    refine (ofText_eq_markup (FsPath.normalize path).text).trans (and_congr_left' ?_)
    rw [toList_normalize, getLast?_slashed (by decide)]
    exact and_iff_left (by decide)
  constructor
  · rintro same ⟨last, some, none⟩
    rw [same] at written
    exact (slashForm.1 (written.2 ⟨last, some⟩)).2 none
  · intro readable
    -- slash form never adds an extension, so only the dialect as written may be the richer one
    cases variant : ScriptVariant.ofPath (.normalize path) with
    | markup =>
      obtain ⟨last, some⟩ := slashForm.1 variant
      exact written.2 ⟨last, extname_ne_empty_of_normalize some⟩
    | plain =>
      cases variant' : ScriptVariant.ofText path with
      | plain => rfl
      | markup =>
        obtain ⟨last, some⟩ := written.1 variant'
        refine absurd ⟨last, some, not_not.1 fun some' => ?_⟩ readable
        rw [slashForm.2 ⟨last, some'⟩] at variant
        cases variant

/-- A path without backslashes is read as it is meant. -/
lemma not_isMisread_of_notMem {path : String} (h : '\\' ∉ path.toList) : ¬ IsMisread path := by
  rintro ⟨-, written, lost⟩
  rw [normalize_of_notMem h] at lost
  exact written lost

/-- The script of a loaded text is that of the prepared text. -/
lemma Plugin.script_of_result (p : Plugin) (path : FsPath) (contents : String) :
    ((p.result path contents).map fun r => (⟨r.code, r.map?⟩ : Script)) =
      p.language.prepare (.ofPath path) p.config.placeholderName path contents >>= fun prepared =>
        (p.language.transform (.ofPath path) path p.config.sourceMap prepared.source).mapError
          (.transform path) := by
  unfold result
  cases p.language.prepare (.ofPath path) p.config.placeholderName path contents with
  | error failure => rfl
  | ok prepared =>
    change _ = Except.mapError _ _
    dsimp only
    cases p.language.transform (.ofPath path) path p.config.sourceMap prepared.source <;> rfl

/-- The functions on texts take the dialect of the plugin, unless the path is misread, which it is
not without a backslash. Then the type-only exports of a text are the names that a plugin with the
default settings finds in a file with that text, and the text with its placeholder exports is what
that plugin transforms, in any surroundings. -/
theorem textFunctions_agree (language : Frontend) (path source : String) :
    (ScriptVariant.ofText path = .ofPath (.normalize path) ↔ ¬ IsMisread path) ∧
      ('\\' ∉ path.toList → ¬ IsMisread path) ∧
      (¬ IsMisread path → ∀ {σ : Type} (h : Host (StateM σ)) (s : σ),
        let p : Plugin := ⟨{}, language, rfl⟩
        let file := FsPath.normalize path
        (((h.read file).run s).1 = .ok source →
          language.typeOnlyExports path source = ((p.analyze h file).run s).1.map (·.names)) ∧
        (((p.loadContents h file source).run s).1.map fun r => (⟨r.code, r.map?⟩ : Script)) =
          language.withPlaceholder path source >>= fun text =>
            (language.transform (.ofText path) file false text).mapError (.transform file)) := by
  refine ⟨ofText_eq_ofPath_iff path, not_isMisread_of_notMem, ?_⟩
  intro readable σ h s p file
  have variant : ScriptVariant.ofText path = .ofPath file := (ofText_eq_ofPath_iff path).2 readable
  constructor
  · intro reading
    rw [Plugin.run_analyze, reading]
    unfold Frontend.typeOnlyExports
    rw [variant]
    rfl
  · rw [Plugin.run_loadContents]
    unfold Frontend.withPlaceholder
    rw [variant, Plugin.script_of_result]
    cases language.prepare (.ofPath file) Placeholder.defaultBase file source <;> rfl

/-- A path with a backslash that is not misread: in a session whose file has the text, the functions
on texts and the plugin find the same name, although the text is a cast. -/
theorem textFunctions_agree_cast :
    let path := "src\\index.ts"
    let source := "let a = <string>b;\nexport type T = 1;"
    let p : Plugin := ⟨{}, .typeScript, rfl⟩
    let s : Session := { store := .ofFiles [(.normalize path, Text.encode source)] }
    ¬ IsMisread path ∧
      ((p.analyze Session.host (.normalize path)).run s).1.map (·.names) = .ok ["T"] ∧
      Frontend.typeScript.typeOnlyExports path source = .ok ["T"] := by
  intro path source p s
  have readable : ¬ IsMisread path := by
    rintro ⟨last, -, -⟩
    revert last
    decide
  have found : ((p.analyze Session.host (.normalize path)).run s).1.map (·.names) = .ok ["T"] := by
    decide +kernel
  obtain ⟨names, -⟩ := (textFunctions_agree .typeScript path source).2.2 readable Session.host s
  refine ⟨readable, found, ?_⟩
  rw [names (by decide +kernel)]
  exact found

/-- A path whose last dot is in front of a backslash: as it is written it has markup, and a text
with a cast is refused; the plugin finds the name. -/
theorem typeOnlyExports_misread :
    let path := "v1.0\\index"
    let source := "let a = <string>b;\nexport type T = 1;"
    let p : Plugin := ⟨{}, .typeScript, rfl⟩
    let s : Session := { store := .ofFiles [(.normalize path, Text.encode source)] }
    ScriptVariant.ofText path = .markup ∧ ScriptVariant.ofPath (.normalize path) = .plain ∧
      Frontend.typeScript.typeOnlyExports path source =
        .error (.parse ⟨"v1.0/index"⟩ ["Unexpected token"]) ∧
      ((p.analyze Session.host (.normalize path)).run s).1.map (·.names) = .ok ["T"] := by
  decide +kernel

end PlaceholderExports
