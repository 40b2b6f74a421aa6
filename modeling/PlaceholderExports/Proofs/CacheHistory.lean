import PlaceholderExports.Proofs.CacheLaws

/-!
# The history of a cache

A cache that starts empty forgets most of what was done with it: of every path it keeps the value
that was stored last, and a clearing loses them all. This module says what it still knows after a
run of calls, of any length, in terms of the calls alone.

* `CacheCall.IsLatest`: the value that was stored last for a path and is not cleared yet.
* `CacheCall.IsHeld`: the paths for which a value was stored after the last clearing.

One more call changes these as it changes the cache, so the entries of the cache are the latest
values (`find?_after`), and its paths are those that are held (`mem_paths_after`), each once
(`nodup_paths_after`). `answers_history` is what follows for the users of the cache.
-/

namespace PlaceholderExports

/-- A call of a user of a cache, who knows contents and not their keys. -/
inductive CacheCall (α : Type) where
  | insert (path : FsPath) (contents : String) (value : α)
  | get (path : FsPath) (contents : String)
  | clear
deriving DecidableEq, Repr

namespace CacheCall

variable {α : Type} {calls : List (CacheCall α)}

/-- A call was made, and every call after it keeps to something. -/
def IsFollowedBy (calls : List (CacheCall α)) (call : CacheCall α) (keeps : CacheCall α → Prop) :
    Prop :=
  ∃ earlier later, calls = earlier ++ call :: later ∧ ∀ c ∈ later, keeps c

/-- One more call is the last one, or it keeps to what the calls after an earlier one keep to. -/
lemma isFollowedBy_concat {last call : CacheCall α} {keeps : CacheCall α → Prop} :
    IsFollowedBy (calls ++ [last]) call keeps ↔
      last = call ∨ keeps last ∧ IsFollowedBy calls call keeps := by
  constructor
  · rintro ⟨earlier, later, whole, kept⟩
    rcases List.eq_nil_or_concat later with rfl | ⟨before, c, rfl⟩
    · exact .inl (List.append_singleton_inj.1 whole).2
    · rw [List.concat_eq_append] at whole kept
      rw [← List.cons_append, ← List.append_assoc] at whole
      obtain ⟨rfl, rfl⟩ := List.append_singleton_inj.1 whole
      obtain ⟨kept, keptLast⟩ := List.forall_mem_append.1 kept
      exact .inr ⟨keptLast last List.mem_cons_self, earlier, before, rfl, kept⟩
  · rintro (rfl | ⟨keptLast, earlier, later, rfl, kept⟩)
    · exact ⟨calls, [], rfl, nofun⟩
    · refine ⟨earlier, later ++ [last], by simp, List.forall_mem_append.2 ⟨kept, ?_⟩⟩
      exact List.forall_mem_singleton.2 keptLast

/-- No call stands in a run without calls. -/
lemma not_isFollowedBy_nil {call : CacheCall α} {keeps : CacheCall α → Prop} :
    ¬ IsFollowedBy [] call keeps := by
  rintro ⟨earlier, later, whole, -⟩
  cases earlier with
  | nil => cases whole
  | cons c earlier => cases whole

/-- The calls that do not touch what is stored for a path. -/
def Spares (path : FsPath) : CacheCall α → Prop
  | insert p _ _ => p ≠ path
  | get _ _ => True
  | clear => False

/-- The value that was stored for a path with some contents is the latest one: no other value was
stored for the path after it, and nothing was cleared. -/
def IsLatest (calls : List (CacheCall α)) (path : FsPath) (contents : String) (value : α) : Prop :=
  IsFollowedBy calls (insert path contents value) (Spares path)

/-- A value was stored for a path, and nothing was cleared after that. -/
def IsHeld (calls : List (CacheCall α)) (path : FsPath) : Prop :=
  ∃ contents value, IsFollowedBy calls (insert path contents value) (· ≠ clear)

/-! ### One more call -/

section Concat

variable {path p : FsPath} {contents t : String} {value v : α}

/-- A path whose value was just stored has that value. -/
lemma isLatest_insert_self :
    IsLatest (calls ++ [insert path t v]) path contents value ↔ contents = t ∧ value = v := by
  unfold IsLatest
  rw [isFollowedBy_concat]
  simp [Spares, eq_comm]

/-- The value of another path leaves the latest one as it is. -/
lemma isLatest_insert_of_ne (other : p ≠ path) :
    IsLatest (calls ++ [insert p t v]) path contents value ↔
      IsLatest calls path contents value := by
  unfold IsLatest
  rw [isFollowedBy_concat]
  simp [Spares, other]

/-- A look into the cache leaves the latest values as they are. -/
lemma isLatest_get :
    IsLatest (calls ++ [get p t]) path contents value ↔ IsLatest calls path contents value := by
  unfold IsLatest
  rw [isFollowedBy_concat]
  simp [Spares]

/-- Just after a clearing there is no latest value. -/
lemma not_isLatest_clear : ¬ IsLatest (calls ++ [clear]) path contents value := by
  unfold IsLatest
  rw [isFollowedBy_concat]
  simp [Spares]

/-- A path is held once its value is stored, and the others stay held. -/
lemma isHeld_insert : IsHeld (calls ++ [insert p t v]) path ↔ p = path ∨ IsHeld calls path := by
  unfold IsHeld
  simp only [isFollowedBy_concat]
  constructor
  · rintro ⟨contents, value, same | ⟨-, held⟩⟩
    · cases same
      exact .inl rfl
    · exact .inr ⟨contents, value, held⟩
  · rintro (rfl | ⟨contents, value, held⟩)
    · exact ⟨t, v, .inl rfl⟩
    · exact ⟨contents, value, .inr ⟨nofun, held⟩⟩

/-- A look into the cache leaves the held paths as they are. -/
lemma isHeld_get : IsHeld (calls ++ [get p t]) path ↔ IsHeld calls path := by
  unfold IsHeld
  simp [isFollowedBy_concat]

/-- Just after a clearing no path is held. -/
lemma not_isHeld_clear : ¬ IsHeld (calls ++ [clear]) path := by
  unfold IsHeld
  simp [isFollowedBy_concat]

end Concat

end CacheCall

namespace Cache

open CacheCall

variable {κ α : Type} [DecidableEq κ] (hash : String → κ)

/-- What a call answers, and the cache that it leaves. -/
def perform (c : Cache κ α) : CacheCall α → Option α × Cache κ α
  | .insert path contents value => (none, c.insert path (hash contents) value)
  | .get path contents => (c.get? path (hash contents), c)
  | .clear => (none, c.clear)

/-- The cache after some calls, from an empty one on. -/
def after (calls : List (CacheCall α)) : Cache κ α :=
  calls.foldl (fun c call => (c.perform hash call).2) {}

variable {hash} {calls : List (CacheCall α)} {path : FsPath}

/-- A cache after one more call is the cache before it, changed by the call. -/
lemma after_concat (call : CacheCall α) :
    after hash (calls ++ [call]) = ((after hash calls).perform hash call).2 := by
  unfold after
  rw [List.foldl_append]
  rfl

/-! ### Runs -/

/-- No path has two values. -/
lemma nodup_paths_after : (after hash calls).paths.Nodup := by
  induction calls using List.reverseRecOn with
  | nil => exact List.nodup_nil
  | append_singleton calls call ih =>
    rw [after_concat]
    cases call with
    | insert p contents value =>
      show ((after hash calls).insert p (hash contents) value).paths.Nodup
      rw [paths_insert]
      by_cases old : p ∈ (after hash calls).paths
      · rw [if_pos old]
        exact ih
      · rw [if_neg old, ← List.concat_eq_append]
        exact ih.concat old
    | get p contents => exact ih
    | clear => exact List.nodup_nil

/-- The paths that have a value are those that are held. -/
lemma mem_paths_after : path ∈ (after hash calls).paths ↔ IsHeld calls path := by
  induction calls using List.reverseRecOn with
  | nil =>
    refine iff_of_false List.not_mem_nil ?_
    rintro ⟨_, _, held⟩
    exact not_isFollowedBy_nil held
  | append_singleton calls call ih =>
    rw [after_concat]
    cases call with
    | insert p contents value =>
      rw [isHeld_insert, ← ih]
      exact mem_paths_insert
    | get p contents =>
      rw [isHeld_get, ← ih]
      exact Iff.rfl
    | clear => exact iff_of_false List.not_mem_nil not_isHeld_clear

/-- The entries are the latest values, each with the key of the contents it was stored with. -/
lemma find?_after {key : κ} {value : α} :
    (after hash calls).find? path = some ⟨key, value⟩ ↔
      ∃ contents, IsLatest calls path contents value ∧ hash contents = key := by
  induction calls using List.reverseRecOn with
  | nil =>
    refine iff_of_false nofun ?_
    rintro ⟨_, latest, -⟩
    exact not_isFollowedBy_nil latest
  | append_singleton calls call ih =>
    rw [after_concat]
    cases call with
    | insert p contents v =>
      show ((after hash calls).insert p (hash contents) v).find? path = _ ↔ _
      rw [find?_insert]
      by_cases same : path = p
      · subst same
        simp only [isLatest_insert_self, if_true, Option.some_inj, CacheEntry.mk.injEq]
        constructor
        · rintro ⟨rfl, rfl⟩
          exact ⟨contents, ⟨rfl, rfl⟩, rfl⟩
        · rintro ⟨_, ⟨rfl, rfl⟩, rfl⟩
          exact ⟨rfl, rfl⟩
      · simp only [if_neg same, isLatest_insert_of_ne (Ne.symm same), ih]
    | get p contents =>
      simp only [isLatest_get, ← ih]
      exact Iff.rfl
    | clear =>
      refine iff_of_false nofun ?_
      rintro ⟨_, latest, -⟩
      exact not_isLatest_clear latest

/-- What a cache that starts empty knows after a run of calls, for any hash function. It answers
with a value if and only if that is the latest value of the path, stored with contents of the same
hash. Its size is the number of the paths for which a value was stored since the last clearing, and
it is empty if there are none. A look into it makes no difference to what comes later. -/
theorem answers_history (hash : String → κ) (calls : List (CacheCall α)) :
    (∀ path contents value,
        ((after hash calls).perform hash (.get path contents)).1 = some value ↔
          ∃ stored, IsLatest calls path stored value ∧ hash stored = hash contents) ∧
      {path | IsHeld calls path}.encard = (after hash calls).size ∧
      ((after hash calls).isEmpty = true ↔ ∀ path, ¬ IsHeld calls path) ∧
      ∀ path contents later,
        after hash (calls ++ .get path contents :: later) = after hash (calls ++ later) := by
  refine ⟨fun path contents value => ?_, ?size, ?empty, fun path contents later => ?_⟩
  · show (after hash calls).get? path (hash contents) = _ ↔ _
    rw [get?_eq_some, find?_after]
  case size =>
    have held : {path | IsHeld calls path} = ((after hash calls).paths.toFinset : Set FsPath) := by
      ext path
      rw [List.coe_toFinset]
      exact mem_paths_after.symm
    rw [held, Set.encard_coe_eq_coe_finsetCard, List.toFinset_card_of_nodup nodup_paths_after]
    exact congrArg Nat.cast (List.length_map _)
  case empty =>
    have none : (∀ path, ¬ IsHeld calls path) ↔ (after hash calls).paths = [] := by
      rw [List.eq_nil_iff_forall_not_mem]
      exact forall_congr' fun _ => not_congr mem_paths_after.symm
    rw [none]
    unfold isEmpty size paths
    rw [beq_iff_eq, List.length_eq_zero_iff, List.map_eq_nil_iff]
  · unfold after
    rw [List.foldl_append, List.foldl_append]
    rfl

end Cache

end PlaceholderExports
