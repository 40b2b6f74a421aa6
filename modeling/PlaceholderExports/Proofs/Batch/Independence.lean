import PlaceholderExports.Proofs.Batch.Workers
import PlaceholderExports.Proofs.Text.ByteOrder

/-!
# Batches in any order

The results of a batch are sorted by path, and nothing else of them is compared. That is enough: two
results of one path are the same, because each is what the file makes of itself, so a list of such
results has only one ascending order (`sortLoaded_eq_of_perm`). Hence neither the order of the files
nor that in which their workers take steps and get done can be seen in a batch
(`batch_independent`).
-/

namespace PlaceholderExports

/-- Results with ascending paths. -/
def Ascending (results : List Loaded) : Prop := results.Pairwise fun a b => a.1 ≤ b.1

/-- Sorted results have ascending paths. -/
lemma ascending_sortLoaded (results : List Loaded) : Ascending (sortLoaded results) :=
  Text.pairwise_mergeSort (fun a : Loaded => a.1.text) results

/-- Ascending paths have ascending bytes. -/
lemma Ascending.bytes {results : List Loaded} (h : Ascending results) :
    results.Pairwise fun a b => Text.encode a.1.text ≤ Text.encode b.1.text :=
  h.imp fun le => Text.encode_le_iff.2 le

/-- Results with ascending paths are sorted. -/
lemma sortLoaded_of_ascending {results : List Loaded} (h : Ascending results) :
    sortLoaded results = results :=
  List.mergeSort_of_pairwise (h.imp decide_eq_true)

/-- Sorting keeps every result. -/
lemma perm_sortLoaded (results : List Loaded) : (sortLoaded results).Perm results :=
  List.mergeSort_perm _ _

/-- Results that are functions of their paths have only one ascending order. -/
theorem sortLoaded_eq_of_perm {answer : FsPath → Except Failure LoadResult} {files : List FsPath}
    {results : List Loaded} (perm : results.Perm (files.map fun file => (file, answer file))) :
    sortLoaded results = sortLoaded (files.map fun file => (file, answer file)) := by
  have own : ∀ a ∈ results, a.2 = answer a.1 := by
    intro a mem
    obtain ⟨file, -, rfl⟩ := List.mem_map.1 (perm.mem_iff.1 mem)
    rfl
  refine List.Perm.eq_of_pairwise ?_ (ascending_sortLoaded _) (ascending_sortLoaded _)
    ((perm_sortLoaded _).trans (perm.trans (perm_sortLoaded _).symm))
  -- two results of one path are the same
  intro a b ha hb le ge
  have path : a.1 = b.1 := congrArg FsPath.mk (le_antisymm (show a.1.text ≤ b.1.text from le) ge)
  have ha := own a ((perm_sortLoaded _).mem_iff.1 ha)
  have hb := own b (perm.mem_iff.2 ((perm_sortLoaded _).mem_iff.1 hb))
  refine Prod.ext path ?_
  rw [ha, hb, path]

section Batches

variable {σ : Type} {h : Host (StateM σ)} {files : σ → FsPath → Except StoreError String}

/-- Loading files one after the other answers for each what follows from the files. -/
lemma Plugin.run_loadEach (keeps : h.KeepsFiles files) (p : Plugin) (batch : List FsPath) (s : σ) :
    ((p.loadEach h batch).run s).1 =
      batch.map fun file => (file, p.answer file (files s file)) := by
  induction batch generalizing s with
  | nil => rfl
  | cons file batch ih =>
    obtain ⟨answer, kept⟩ := p.run_load_of_keepsFiles keeps file s
    have rest := ih ((p.load h file).run s).2
    rw [kept] at rest
    rw [List.map_cons, ← answer, ← rest]
    rfl

/-- A batch that is loaded file by file holds the sorted answers of its files. -/
lemma Plugin.run_loadAll (keeps : h.KeepsFiles files) (p : Plugin) (batch : List FsPath) (s : σ) :
    ((p.loadAll h batch).run s).1 =
      sortLoaded (batch.map fun file => (file, p.answer file (files s file))) := by
  -- the files are loaded after the time has been taken and a message has been sent
  let s₁ := (h.clock.run s).2
  let s₂ := ((h.info ("Loading " ++ toString batch.length ++ " modules in parallel...")).run s₁).2
  have kept : files s₂ = files s := (keeps.log _ s₁).trans (keeps.clock s)
  have loadEach : ((p.loadAll h batch).run s).1 = sortLoaded ((p.loadEach h batch).run s₂).1 := rfl
  rw [loadEach, p.run_loadEach keeps, kept]

/-- In surroundings that keep their files, a batch has ascending paths by their bytes, and for every
file that was given, as often as it was given, what loading it alone gives. The order of the files
makes no difference. Nor do the workers: whatever steps they take in whatever order, when all of
them are done, their results, collected in any order and sorted, are the same batch. And they are
done once each of them has taken two steps. -/
theorem batch_independent (keeps : h.KeepsFiles files) (p : Plugin) (batch : List FsPath) (s : σ) :
    let alone := fun file => ((p.load h file).run s).1
    let loaded := ((p.loadAll h batch).run s).1
    loaded.Pairwise (fun a b => Text.encode a.1.text ≤ Text.encode b.1.text) ∧
      loaded.Perm (batch.map fun file => (file, alone file)) ∧
      ∀ batch', batch'.Perm batch →
        ((p.loadAll h batch').run s).1 = loaded ∧
        ∀ schedule : List Nat,
          let pool := (Pool.start s batch').run p h schedule
          (pool.IsDone → ∀ collected, collected.Perm pool.results →
            sortLoaded collected = loaded) ∧
          ((∀ i < batch'.length, 2 ≤ schedule.count i) → pool.IsDone) := by
  intro alone loaded
  have entries : (fun file => (file, alone file)) =
      fun file => (file, p.answer file (files s file)) := by
    funext file
    exact congrArg (Prod.mk file) (p.run_load_of_keepsFiles keeps file s).1
  have loaded_eq : loaded =
      sortLoaded (batch.map fun file => (file, p.answer file (files s file))) :=
    p.run_loadAll keeps batch s
  refine ⟨?ascending, ?entries, ?orders⟩
  case ascending =>
    rw [loaded_eq]
    exact (ascending_sortLoaded _).bytes
  case entries =>
    rw [loaded_eq, entries]
    exact perm_sortLoaded _
  case orders =>
    intro batch' perm
    have perm := perm.map fun file => (file, p.answer file (files s file))
    refine ⟨?_, fun schedule => ⟨fun done collected order => ?_, Pool.isDone_run keeps s⟩⟩
    · rw [p.run_loadAll keeps batch' s, loaded_eq]
      exact sortLoaded_eq_of_perm perm
    · have sound : ((Pool.start s batch').run p h schedule).Sound p files (files s) batch' :=
        Pool.sound_run keeps schedule (Pool.sound_start s)
      rw [sound.results_eq done] at order
      rw [loaded_eq]
      exact sortLoaded_eq_of_perm (order.trans perm)

end Batches

/-- A batch in memory with a file that is no module and a file that is given twice, and four workers
that take turns on the same files in another order. -/
theorem batch_independent_four_workers :
    let p : Plugin := ⟨{}, .typeScript, rfl⟩
    let s : Session :=
      { store := .ofFiles [(⟨"/c.ts"⟩, Text.encode "export type C = 1;"),
          (⟨"/a.ts"⟩, Text.encode "export type A = 1;"),
          (⟨"/b.ts"⟩, Text.encode "export type = ;")] }
    let alone := fun file => ((p.load Session.host file).run s).1
    let loaded := ((p.loadAll Session.host [⟨"/c.ts"⟩, ⟨"/b.ts"⟩, ⟨"/a.ts"⟩, ⟨"/c.ts"⟩]).run s).1
    let pool := (Pool.start s [⟨"/a.ts"⟩, ⟨"/c.ts"⟩, ⟨"/c.ts"⟩, ⟨"/b.ts"⟩]).run p Session.host
      [3, 1, 2, 1, 0, 3, 2, 0]
    ([⟨"/a.ts"⟩, ⟨"/b.ts"⟩, ⟨"/c.ts"⟩].map fun file =>
        (alone file).toOption.map (·.typeOnlyExports)) = [some ["A"], none, some ["C"]] ∧
      pool.IsDone ∧ sortLoaded pool.results.reverse = loaded := by
  intro p s alone loaded pool
  have names : ([⟨"/a.ts"⟩, ⟨"/b.ts"⟩, ⟨"/c.ts"⟩].map fun file =>
      (alone file).toOption.map (·.typeOnlyExports)) = [some ["A"], none, some ["C"]] := by
    decide +kernel
  obtain ⟨-, -, orders⟩ := batch_independent Session.keepsFiles p
    [⟨"/c.ts"⟩, ⟨"/b.ts"⟩, ⟨"/a.ts"⟩, ⟨"/c.ts"⟩] s
  obtain ⟨-, runs⟩ := orders [⟨"/a.ts"⟩, ⟨"/c.ts"⟩, ⟨"/c.ts"⟩, ⟨"/b.ts"⟩] (by decide)
  obtain ⟨same, done⟩ := runs [3, 1, 2, 1, 0, 3, 2, 0]
  have done : pool.IsDone := done (by decide)
  exact ⟨names, done, same done _ (List.reverse_perm _)⟩

end PlaceholderExports
