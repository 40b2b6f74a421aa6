import PlaceholderExports.Proofs.Config.Validity
import PlaceholderExports.Proofs.FsPath.Placement

/-!
# Extensions that are loaded

A plugin looks at what stands in a file name from its last dot on. So a listed extension has an
effect only if it has no dot but the one in front, and no slash (`FsPath.IsExtension`).
Configurations are not checked for that: a text like `.d.ts` is accepted, and no file is loaded for
it (`accepted_without_effect`). `handles_listed` says which of the files whose names end in a listed
extension are loaded.
-/

namespace PlaceholderExports

namespace FsPath

/-! ### Extensions of paths -/

/-- What the extension of a file looks like: a dot, and behind it neither a dot nor a slash. -/
def IsExtension (e : String) : Prop := ∃ tail, e.toList = '.' :: tail ∧ '.' ∉ tail ∧ '/' ∉ tail

/-- Another dot than the one in front makes it none. -/
lemma not_isExtension {e : String} (dot : '.' ∈ e.toList.tail) : ¬ IsExtension e := by
  rintro ⟨tail, chars, noDot, -⟩
  rw [chars] at dot
  exact noDot dot

/-- The extension starts at the last dot, if something stands before it. -/
lemma extChars_append {front tail : List Char} (ne : front ≠ []) (noDot : '.' ∉ tail) :
    extChars (front ++ '.' :: tail) = '.' :: tail := by
  have whole := stem_append_extChars (front ++ '.' :: tail)
  rw [stem_append ne noDot] at whole
  exact List.append_cancel_left whole

/-- Some path has an extension if and only if that looks like one. -/
lemma exists_extname_iff {e : String} (ne : e ≠ "") :
    (∃ path : FsPath, extname path.text = e) ↔ IsExtension e := by
  constructor
  · rintro ⟨path, rfl⟩
    have noSlash := notMem_baseChars path.text.toList
    unfold extname at ne ⊢
    obtain ⟨none, -⟩ | ⟨front, tail, some, whole, -, noDot⟩ :=
      extChars_eq (baseChars path.text.toList)
    · rw [none] at ne
      exact absurd rfl ne
    · rw [whole] at noSlash
      refine ⟨tail, by rw [some, String.toList_ofList], noDot, fun mem => noSlash ?_⟩
      exact List.mem_append_right _ (List.mem_cons_of_mem _ mem)
  · rintro ⟨tail, chars, noDot, noSlash⟩
    refine ⟨⟨"a" ++ e⟩, ?_⟩
    have base : '/' ∉ 'a' :: '.' :: tail := by simp [noSlash]
    unfold extname
    rw [String.toList_append, chars, show "a".toList = ['a'] from rfl, List.singleton_append,
      baseChars_of_notMem base]
    rw [← String.toList_inj, String.toList_ofList, chars]
    have behind : ['a'] ≠ [] := List.cons_ne_nil _ _
    exact extChars_append behind noDot

/-- The extension of a file whose name is a stem and a text with a dot: the one that the text ends
in. -/
lemma extname_eq_iff {path : FsPath} {stem e e' : String} (ne : stem ≠ "") (dot : '.' ∈ e.toList)
    (named : basename path.text = stem ++ e) :
    extname path.text = e' ↔ IsExtension e' ∧ e'.toList <:+ e.toList := by
  have base : baseChars path.text.toList = stem.toList ++ e.toList := by
    rw [← String.toList_append, ← named]
    exact String.toList_ofList.symm
  have found : ∀ front tail, e.toList = front ++ '.' :: tail → '.' ∉ tail →
      extname path.text = String.ofList ('.' :: tail) := by
    intro front tail whole noDot
    have behind : stem.toList ++ front ≠ [] :=
      List.append_ne_nil_of_left_ne_nil (mt String.toList_eq_nil_iff.1 ne) front
    unfold extname
    rw [base, whole, ← List.append_assoc, extChars_append behind noDot]
  constructor
  · rintro rfl
    obtain ⟨front, tail, whole, noDot⟩ := exists_last dot
    have noSlash : '/' ∉ tail := by
      intro mem
      refine notMem_baseChars path.text.toList ?_
      rw [base, whole]
      exact List.mem_append_right _ (List.mem_append_right _ (List.mem_cons_of_mem _ mem))
    rw [found front tail whole noDot]
    refine ⟨⟨tail, String.toList_ofList, noDot, noSlash⟩, front, ?_⟩
    rw [String.toList_ofList, whole]
  · rintro ⟨⟨tail, chars, noDot, -⟩, front, whole⟩
    rw [chars] at whole
    rw [found front tail whole.symm noDot, ← chars, String.ofList_toList]

end FsPath

namespace Plugin

/-! ### Listed extensions -/

/-- A plugin handles the files whose extension is listed. -/
lemma handles_iff {p : Plugin} {path : FsPath} :
    p.handles path = true ↔ FsPath.extname path.text ∈ p.config.input := by
  unfold handles
  exact List.contains_iff_mem

/-- A valid configuration makes a plugin. A file whose name is a stem and a listed extension is
handled if and only if the text ends in a listed extension that looks like one, be it the text
itself. And there are files that are handled for having a listed extension if and only if that looks
like one. -/
theorem handles_listed {config : Config} {language : Frontend} (valid : config.fault? = none) :
    ∃ p, ofConfig config language = .ok p ∧ ∀ e ∈ config.input,
      (∀ (path : FsPath) (stem : String), stem ≠ "" → FsPath.basename path.text = stem ++ e →
        (p.handles path = true ↔
          ∃ e' ∈ config.input, FsPath.IsExtension e' ∧ e'.toList <:+ e.toList)) ∧
      ((∃ path : FsPath, FsPath.extname path.text = e ∧ p.handles path = true) ↔
        FsPath.IsExtension e) := by
  refine ⟨_, ofConfig_of_valid valid, fun e listed => ?_⟩
  have dotted : e.toList.head? = some '.' := by
    simpa [Config.startsWithDot] using (Config.fault?_eq_none_iff.1 valid).startsWithDot e listed
  have dot : '.' ∈ e.toList := List.mem_of_mem_head? dotted
  refine ⟨fun path stem ne named => ?_, ?_⟩
  · rw [handles_iff]
    constructor
    · intro mem
      exact ⟨_, mem, (FsPath.extname_eq_iff ne dot named).1 rfl⟩
    · rintro ⟨e', mem, found⟩
      rw [(FsPath.extname_eq_iff ne dot named).2 found]
      exact mem
  · have ne : e ≠ "" := by
      rintro rfl
      cases dot
    rw [← FsPath.exists_extname_iff ne]
    constructor
    · rintro ⟨path, found, -⟩
      exact ⟨path, found⟩
    · rintro ⟨path, found⟩
      exact ⟨path, found, handles_iff.2 (found ▸ listed)⟩

/-- A configuration with the extension of declaration files, which ends in another listed one. -/
theorem handles_listed_declarations :
    let config : Config := { input := [".d.mts", ".tsx", ".mts"] }
    config.fault? = none ∧ ∃ p, ofConfig config = .ok p ∧
      ".d.mts" ∈ config.input ∧ "a" ≠ "" ∧ FsPath.basename "/src/a.d.mts" = "a" ++ ".d.mts" ∧
      p.handles ⟨"/src/a.d.mts"⟩ = true ∧
      ¬ ∃ path : FsPath, FsPath.extname path.text = ".d.mts" ∧ p.handles path = true := by
  intro config
  have valid : config.fault? = none := by decide +kernel
  obtain ⟨p, built, listed⟩ := @handles_listed config .typeScript valid
  have mem : ".d.mts" ∈ config.input := by decide
  have named : FsPath.basename "/src/a.d.mts" = "a" ++ ".d.mts" := by decide +kernel
  obtain ⟨handled, effective⟩ := listed ".d.mts" mem
  refine ⟨valid, p, built, mem, by decide, named, ?_, ?_⟩
  · refine (handled ⟨"/src/a.d.mts"⟩ "a" (by decide) named).2 ⟨".mts", by decide, ?_, ?_⟩
    · exact ⟨['m', 't', 's'], by decide, by decide, by decide⟩
    · decide
  · rw [effective]
    exact FsPath.not_isExtension (by decide)

/-- A configuration that is accepted, and whose only extension has no effect: it is that of a file
that is not handled, and no other file is handled either. -/
theorem accepted_without_effect :
    let config : Config := { input := [".d.ts"] }
    config.fault? = none ∧ FsPath.basename "/a.d.ts" = "a" ++ ".d.ts" ∧
      ∃ p, ofConfig config = .ok p ∧ p.handles ⟨"/a.d.ts"⟩ = false ∧
        ∀ path, p.handles path = false := by
  intro config
  have valid : config.fault? = none := by decide +kernel
  have none : ∀ path, (Plugin.mk config .typeScript valid).handles path = false := by
    intro path
    rw [Bool.eq_false_iff, Ne, handles_iff, List.mem_singleton]
    intro found
    have shape := (FsPath.exists_extname_iff (by decide)).1 ⟨path, found⟩
    exact FsPath.not_isExtension (by decide) shape
  exact ⟨valid, by decide +kernel, _, ofConfig_of_valid valid, none _, none⟩

end Plugin

end PlaceholderExports
