import Mathlib
import PlaceholderExports.FsPath

/-!
# Joining in steps

Joining trims the base anew, so joining in two steps may lose what the first step left at the end of
the path. It leaves a slash there if nothing remains of its last segment, which is so for `./` any
number of times and then slashes (`Vanishes`), and in no other case (`getLast?_join`). So this is
the only case in which two steps differ from one (`join_append_eq_iff`).
-/

namespace PlaceholderExports.FsPath

/-! ### Trimming -/

/-- A text that trimming at the end leaves as it is: it does not end in a slash. -/
lemma dropTrailingSlashes_eq_self_iff {t : List Char} :
    dropTrailingSlashes t = t ↔ t.getLast? ≠ some '/' := by
  change t.rdropWhile (· = '/') = t ↔ _
  rw [List.rdropWhile_eq_self_iff]
  cases t using List.reverseRecOn with
  | nil => exact iff_of_true (fun hl => absurd rfl hl) nofun
  | append_singleton t c => simp

/-- What is left after trimming does not end with a slash. -/
lemma getLast?_dropTrailingSlashes (t : List Char) : (dropTrailingSlashes t).getLast? ≠ some '/' :=
  dropTrailingSlashes_eq_self_iff.1 (List.rdropWhile_idempotent (· = '/') t)

/-- Nothing remains of a segment that is `./` any number of times and then slashes. -/
def Vanishes (segment : String) : Prop :=
  ∃ dots slashes, segment.toList =
    (List.replicate dots ['.', '/']).flatten ++ List.replicate slashes '/'

/-- Nothing remains of a segment if there are only slashes behind the `./` in front. -/
lemma trimSegment_eq_nil_iff {s : List Char} :
    trimSegment s = [] ↔ ∀ c ∈ dropDotSlashes s, c = '/' := by
  change ((dropDotSlashes s).dropWhile (· = '/')).rdropWhile (· = '/') = [] ↔ _
  rw [List.rdropWhile_eq_nil_iff]
  have first := List.head?_dropWhile_not (· = '/') (dropDotSlashes s)
  have none := List.dropWhile_eq_nil_iff (p := (· = '/')) (l := dropDotSlashes s)
  simp only [decide_eq_true_eq] at none
  rw [← none]
  -- what is left behind the slashes in front begins with something else
  cases left : (dropDotSlashes s).dropWhile (· = '/') with
  | nil => exact iff_of_true nofun rfl
  | cons c rest =>
    rw [left] at first
    refine iff_of_false (fun all => ?_) (List.cons_ne_nil c rest)
    simp [of_decide_eq_true (all c List.mem_cons_self)] at first

/-- Only slashes are left behind leading `./` of a text made of such and of slashes. -/
lemma forall_mem_dropDotSlashes_iff {s : List Char} :
    (∀ c ∈ dropDotSlashes s, c = '/') ↔
      ∃ dots slashes,
        s = (List.replicate dots ['.', '/']).flatten ++ List.replicate slashes '/' := by
  fun_induction dropDotSlashes s with
  | case1 rest ih =>
    rw [ih]
    constructor
    · rintro ⟨dots, slashes, rfl⟩
      exact ⟨dots + 1, slashes, rfl⟩
    · rintro ⟨_ | dots, slashes, whole⟩
      · have dot : '.' ∈ List.replicate slashes '/' := by
          change '.' :: '/' :: rest = List.replicate slashes '/' at whole
          rw [← whole]
          exact List.mem_cons_self
        cases List.eq_of_mem_replicate dot
      · rw [List.replicate_succ, List.flatten_cons, List.append_assoc] at whole
        exact ⟨dots, slashes, (List.cons.inj (List.cons.inj whole).2).2⟩
  | case2 s other =>
    constructor
    · intro all
      exact ⟨0, s.length, List.eq_replicate_iff.2 ⟨rfl, all⟩⟩
    · rintro ⟨_ | dots, slashes, rfl⟩
      · exact fun c mem => List.eq_of_mem_replicate mem
      · exact absurd rfl (other _)

/-- A segment is trimmed to nothing if it vanishes. -/
lemma trimSegment_eq_nil_iff_vanishes {segment : String} :
    trimSegment segment.toList = [] ↔ Vanishes segment :=
  trimSegment_eq_nil_iff.trans forall_mem_dropDotSlashes_iff

/-- What remains of a segment does not end in a slash. -/
lemma getLast?_trimSegment (s : List Char) : (trimSegment s).getLast? ≠ some '/' :=
  getLast?_dropTrailingSlashes _

/-! ### Joining -/

/-- The characters that segments add to a path. -/
def joined (segments : List String) : List Char :=
  segments.flatMap fun segment => '/' :: trimSegment segment.toList

/-- Joined paths are the trimmed base and then the joined segments. -/
lemma toList_join (base : String) (segments : List String) :
    (join base segments).toList = dropTrailingSlashes base.toList ++ joined segments := by
  unfold join joined
  rw [String.toList_ofList, List.foldl_append_eq_append, List.flatMap_def]

/-- A joined path ends in a slash if and only if nothing remains of its last segment. -/
lemma getLast?_join {base : String} {segments : List String} :
    (join base segments).toList.getLast? = some '/' ↔
      ∃ last, segments.getLast? = some last ∧ Vanishes last := by
  rw [toList_join]
  cases segments using List.reverseRecOn with
  | nil =>
    refine iff_of_false ?_ nofun
    unfold joined
    rw [List.flatMap_nil, List.append_nil]
    exact getLast?_dropTrailingSlashes _
  | append_singleton front last =>
    have split : joined (front ++ [last]) = joined front ++ '/' :: trimSegment last.toList := by
      unfold joined
      rw [List.flatMap_append, List.flatMap_singleton]
    have ends : ('/' :: trimSegment last.toList).getLast? = some '/' ↔
        trimSegment last.toList = [] := by
      have other := getLast?_trimSegment last.toList
      generalize trimSegment last.toList = core at other ⊢
      cases core with
      | nil => exact iff_of_true rfl rfl
      | cons c core => exact iff_of_false other (List.cons_ne_nil c core)
    rw [split, ← List.append_assoc, List.getLast?_append_of_ne_nil _ (List.cons_ne_nil _ _), ends,
      trimSegment_eq_nil_iff_vanishes, List.getLast?_concat]
    simp

/-- Joining some segments and then more is joining them all at once if and only if there are none at
first or something remains of the last one of these. For only then the path that they make does not
end in a slash: it does if and only if nothing remains of its last segment, which means that this
segment is `./` any number of times and then slashes. -/
theorem join_append_eq_iff (base : String) (xs ys : List String) :
    (join base (xs ++ ys) = join (join base xs) ys ↔
      xs = [] ∨ ∃ last, xs.getLast? = some last ∧ ¬ Vanishes last) ∧
    ((join base xs).toList.getLast? = some '/' ↔
      ∃ last, xs.getLast? = some last ∧ Vanishes last) ∧
    ∀ segment, trimSegment segment.toList = [] ↔ Vanishes segment := by
  refine ⟨?_, getLast?_join, fun _ => trimSegment_eq_nil_iff_vanishes⟩
  have both : (join base (xs ++ ys)).toList = (join base xs).toList ++ joined ys := by
    rw [toList_join, toList_join, List.append_assoc]
    unfold joined
    rw [List.flatMap_append]
  calc join base (xs ++ ys) = join (join base xs) ys
      ↔ dropTrailingSlashes (join base xs).toList = (join base xs).toList := by
        rw [← String.toList_inj, both, toList_join (join base xs), List.append_cancel_right_eq,
          eq_comm]
    _ ↔ ¬ ∃ last, xs.getLast? = some last ∧ Vanishes last := by
        rw [dropTrailingSlashes_eq_self_iff, Ne, getLast?_join]
    _ ↔ xs = [] ∨ ∃ last, xs.getLast? = some last ∧ ¬ Vanishes last := by
        cases xs using List.reverseRecOn with
        | nil => simp
        | append_singleton front last => simp

-- the slash that a vanished segment leaves is lost when the path is joined again
example : join "/out/" ["./src", ".//"] = "/out/src/" ∧
    join "/out/" ["./src", ".//", "a.js"] = "/out/src//a.js" ∧
    join (join "/out/" ["./src", ".//"]) ["a.js"] = "/out/src/a.js" := by
  decide +kernel

end PlaceholderExports.FsPath
