import PlaceholderExports.Proofs.Store.MemoryLaws
import PlaceholderExports.Proofs.Text.Decoding
import PlaceholderExports.Store.Shared

/-!
# What is found in a shared store

The calls of a run store files, through one handle or another. This module says what a store holds
after a run in terms of these files alone, in the order in which they were stored (`written`).

One more action stores its files in the store of its handle and in no other one (`stores_act`), so
after a run every store is the store of the files that were written into it (`stores_after`). What
all its handles answer then is told by the laws of stores in memory (`answers_shared_files`).
-/

namespace PlaceholderExports

open PlaceholderExports.Text (Bytes)

/-- The files that a call stores, in order. -/
def MemoryCall.writes : MemoryCall → List (FsPath × Bytes)
  | initWith files => files.map fun (path, text) => (⟨path⟩, Text.encode text)
  | write path bytes => [(path, bytes)]
  | ensureDir _ | read _ | contains _ | paths => []

namespace MemoryStore

/-- A call stores its files, and nothing else. -/
lemma perform_writes (s : MemoryStore) (call : MemoryCall) :
    (s.perform call).2 = call.writes.foldl (fun s (path, bytes) => s.write path bytes) s := by
  cases call with
  | initWith texts =>
    show _ = (texts.map _).foldl _ _
    rw [List.foldl_map]
    rfl
  | write path bytes => rfl
  | ensureDir path => rfl
  | read path => rfl
  | contains path => rfl
  | paths => rfl

/-! ### Reading -/

/-- A text is read if its bytes are stored. -/
lemma read_eq_ok {s : MemoryStore} {path : FsPath} {text : String} :
    s.read path = .ok text ↔ s.bytes? path = some (Text.encode text) := by
  unfold read
  cases s.bytes? path with
  | none => exact iff_of_false nofun nofun
  | some bytes =>
    rw [Option.some_inj, ← Text.decode_eq_ok_iff]
    show (Text.decode bytes).mapError _ = _ ↔ _
    cases Text.decode bytes with
    | error cause => exact iff_of_false nofun nofun
    | ok t => simp only [Except.mapError, Except.ok.injEq]

/-- No file is found where no bytes are stored. -/
lemma read_notFound {s : MemoryStore} {path : FsPath} :
    (∃ e, s.read path = .error e ∧ e.kind = .notFound) ↔ s.bytes? path = none := by
  unfold read
  cases s.bytes? path with
  | none => exact iff_of_true ⟨_, rfl, rfl⟩ rfl
  | some bytes =>
    refine iff_of_false ?_ nofun
    show ¬ ∃ e, (Text.decode bytes).mapError _ = _ ∧ _
    cases Text.decode bytes with
    | error cause => rintro ⟨_, ⟨⟩, ⟨⟩⟩
    | ok text => rintro ⟨_, ⟨⟩, -⟩

/-- Bytes are refused as data if they are not valid. -/
lemma read_invalidData {s : MemoryStore} {path : FsPath} {bytes : Bytes}
    (stored : s.bytes? path = some bytes) :
    (∃ e, s.read path = .error e ∧ e.kind = .invalidData) ↔ ¬ bytes.toByteArray.IsValidUTF8 := by
  unfold read
  rw [stored, Text.isValidUTF8_iff]
  simp only [← Text.decode_eq_ok_iff]
  cases Text.decode bytes with
  | error cause => exact iff_of_true ⟨_, rfl, rfl⟩ nofun
  | ok text =>
    refine iff_of_false ?_ fun unread => unread ⟨text, rfl⟩
    rintro ⟨_, ⟨⟩, -⟩

end MemoryStore

namespace SharedStores

variable {w : SharedStores} {run : List StoreAction} {h j k : Nat}

/-- The files that an action stores in a store. -/
def writesTo (w : SharedStores) (j : Nat) : StoreAction → List (FsPath × Bytes)
  | .make | .clone _ => []
  | .call h call => if w.handles[h]? = some j then call.writes else []

/-- The files that actions store in a store, in order, from some stores on. -/
def writtenFrom (j : Nat) : SharedStores → List StoreAction → List (FsPath × Bytes)
  | _, [] => []
  | w, action :: run => w.writesTo j action ++ writtenFrom j (w.act action) run

/-- The files that a run stores in a store, in order. -/
def written (j : Nat) (run : List StoreAction) : List (FsPath × Bytes) := writtenFrom j {} run

/-- What two runs store, one after the other, is what the first stores and then what the second
stores. -/
lemma writtenFrom_append (run later : List StoreAction) :
    writtenFrom j w (run ++ later) =
      writtenFrom j w run ++ writtenFrom j (run.foldl act w) later := by
  induction run generalizing w with
  | nil => rfl
  | cons action run ih =>
    show _ ++ writtenFrom j _ (run ++ later) = _ ++ _ ++ _
    rw [ih, List.append_assoc]
    rfl

/-- One more action stores its files behind those of the run. -/
lemma written_concat (action : StoreAction) :
    written j (run ++ [action]) = written j run ++ (after run).writesTo j action := by
  unfold written
  rw [writtenFrom_append]
  exact congrArg _ (List.append_nil _)

/-- After one more action the stores are those after the run, changed by the action. -/
lemma after_concat (action : StoreAction) : after (run ++ [action]) = (after run).act action := by
  unfold after
  rw [List.foldl_append]
  rfl

/-! ### Runs -/

/-- Every handle is for a store that there is. -/
def Bounded (w : SharedStores) : Prop := ∀ j ∈ w.handles, j < w.stores.length

/-- No action opens a handle for a store that is not there. -/
lemma Bounded.act (bounded : w.Bounded) (action : StoreAction) : (w.act action).Bounded := by
  intro j opened
  cases action with
  | make =>
    show j < (w.stores ++ [_]).length
    rw [List.length_append]
    rcases List.mem_append.1 opened with old | new
    · exact (bounded j old).trans (Nat.lt_succ_self _)
    · rw [List.mem_singleton.1 new]
      exact Nat.lt_succ_self _
  | clone k =>
    cases found : w.handles[k]? with
    | none =>
      simp only [SharedStores.act, found] at opened ⊢
      exact bounded j opened
    | some i =>
      simp only [SharedStores.act, found] at opened ⊢
      rcases List.mem_append.1 opened with old | new
      · exact bounded j old
      · rw [List.mem_singleton.1 new]
        exact bounded i (List.mem_of_getElem? found)
  | call k call =>
    cases found : w.handles[k]? with
    | none =>
      simp only [SharedStores.act, found] at opened ⊢
      exact bounded j opened
    | some i =>
      simp only [SharedStores.act, found, List.length_modify] at opened ⊢
      exact bounded j opened

/-- After every run all handles are for stores that are there. -/
lemma bounded_after (run : List StoreAction) : (after run).Bounded := by
  induction run using List.reverseRecOn with
  | nil => exact nofun
  | append_singleton run action ih =>
    rw [after_concat]
    exact ih.act action

/-- An action stores its files in the store of its handle, and leaves the others as they are. -/
lemma stores_act (bounded : w.Bounded) (action : StoreAction) :
    (w.act action).stores[j]?.getD {} = (w.writesTo j action).foldl
      (fun s (path, bytes) => s.write path bytes) (w.stores[j]?.getD {}) := by
  cases action with
  | make =>
    show (w.stores ++ [_])[j]?.getD {} = w.stores[j]?.getD {}
    rw [List.getElem?_append]
    by_cases old : j < w.stores.length
    · rw [if_pos old]
    · rw [if_neg old, List.getElem?_eq_none (not_lt.1 old)]
      cases j - w.stores.length <;> rfl
  | clone k =>
    show (w.act (.clone k)).stores[j]?.getD {} = w.stores[j]?.getD {}
    cases found : w.handles[k]? with
    | none => simp only [act, found]
    | some i => simp only [act, found]
  | call k call =>
    cases found : w.handles[k]? with
    | none =>
      simp only [act, writesTo, found]
      rfl
    | some i =>
      simp only [act, writesTo, found]
      rw [List.getElem?_modify]
      by_cases same : i = j
      · subst same
        -- without a store the files would be lost
        have there := List.getElem?_eq_getElem (bounded i (List.mem_of_getElem? found))
        rw [if_pos rfl, there]
        simp only [if_true]
        exact MemoryStore.perform_writes _ call
      · rw [if_neg fun other => same (Option.some.inj other)]
        simp [same]

/-- After a run a store has the files that were stored in it. -/
lemma stores_after : (after run).stores[j]?.getD {} = .ofFiles (written j run) := by
  induction run using List.reverseRecOn with
  | nil => rfl
  | append_singleton run action ih =>
    rw [after_concat, stores_act (bounded_after run), ih, written_concat,
      MemoryStore.ofFiles_append]

/-- A handle answers for the files that were stored in its store. -/
lemma answer_after (opened : (after run).handles[h]? = some j) (call : MemoryCall) :
    (after run).answer h call = some ((MemoryStore.ofFiles (written j run)).perform call).1 := by
  have there := List.getElem?_eq_getElem (bounded_after run j (List.mem_of_getElem? opened))
  have known := @stores_after run j
  rw [there] at known
  unfold answer
  rw [opened, Option.bind_some, there, ← known]
  rfl

/-- What is read through a handle is read of its store. -/
lemma answer_read (opened : (after run).handles[h]? = some j) {path : FsPath}
    {result : Except StoreError String} :
    (after run).answer h (.read path) = some (.text result) ↔
      (MemoryStore.ofFiles (written j run)).read path = result := by
  rw [answer_after opened, Option.some_inj]
  exact Eq.to_iff (MemoryAnswer.text.injEq _ _)

/-- Calls make no handles and close none. -/
lemma handles_call (call : MemoryCall) : (w.act (.call k call)).handles = w.handles := by
  cases found : w.handles[k]? with
  | none => simp only [act, found]
  | some j => simp only [act, found]

/-- A call that stores no files makes no difference. -/
lemma act_of_writes {call : MemoryCall} (quiet : call.writes = []) : w.act (.call k call) = w := by
  have same : (fun s : MemoryStore => (s.perform call).2) = id := by
    funext s
    rw [MemoryStore.perform_writes, quiet]
    rfl
  cases found : w.handles[k]? with
  | none => simp only [act, found]
  | some j => simp only [act, found, same, List.modify_id]

/-- What a handle answers after a run, by the files that were stored in its store through all the
handles for it. Just their paths are there, and they are listed in strictly ascending order of their
bytes. Reading gives the text of the bytes that were stored last under a path; it fails if these are
no text, and for the other paths. So what is written through any handle is read. The calls that
store no files make no difference to what comes later. -/
theorem answers_shared_files (run : List StoreAction) {h j : Nat}
    (opened : (after run).handles[h]? = some j) :
    (∀ path, ∃ found, (after run).answer h (.contains path) = some (.presence found) ∧
        (found = true ↔ ∃ bytes, (path, bytes) ∈ written j run)) ∧
      (∀ path bytes, Assoc.last? path (written j run) = some bytes →
        (∀ text, (after run).answer h (.read path) = some (.text (.ok text)) ↔
          text.toUTF8 = bytes.toByteArray) ∧
        ((∃ e, (after run).answer h (.read path) = some (.text (.error e)) ∧
            e.kind = .invalidData) ↔
          ¬ bytes.toByteArray.IsValidUTF8)) ∧
      (∀ path,
        (∃ e, (after run).answer h (.read path) = some (.text (.error e)) ∧ e.kind = .notFound) ↔
          ∀ bytes, (path, bytes) ∉ written j run) ∧
      (∃ paths, (after run).answer h .paths = some (.listing paths) ∧
        paths.Pairwise (fun p q => Text.encode p.text < Text.encode q.text) ∧
        ∀ path, path ∈ paths ↔ ∃ bytes, (path, bytes) ∈ written j run) ∧
      (∀ k, (after run).handles[k]? = some j → ∀ path text,
        (after (run ++ [.call k (.write path (Text.encode text))])).answer h (.read path) =
          some (.text (.ok text))) ∧
      ∀ k path later, ∀ call ∈ [.ensureDir path, .read path, .contains path, .paths],
        after (run ++ .call k call :: later) = after (run ++ later) := by
  have stored (path : FsPath) : ((MemoryStore.ofFiles (written j run)).bytes? path).isSome = true ↔
      ∃ bytes, (path, bytes) ∈ written j run := by
    rw [MemoryStore.bytes?_ofFiles, Assoc.isSome_last?]
  refine ⟨fun path => ⟨_, answer_after opened _, stored path⟩,
    fun path bytes last => ⟨?ok, ?invalid⟩,
    fun path => ?missing, ⟨_, answer_after opened _, ?_, fun path => ?_⟩, ?written, ?quiet⟩
  case ok =>
    intro text
    rw [answer_read opened, MemoryStore.read_eq_ok, MemoryStore.bytes?_ofFiles, last,
      Option.some_inj, ← Text.toByteArray_encode, List.toByteArray_inj, eq_comm]
  case invalid =>
    simp only [answer_read opened]
    exact MemoryStore.read_invalidData ((MemoryStore.bytes?_ofFiles path _).trans last)
  case missing =>
    simp only [answer_read opened]
    rw [MemoryStore.read_notFound, ← Option.not_isSome_iff_eq_none, stored, not_exists]
  · exact MemoryStore.ascending_paths (MemoryStore.nodup_ofFiles _)
  · exact MemoryStore.mem_paths.trans (stored path)
  case written =>
    intro k shared path text
    have still :
        (after (run ++ [.call k (.write path (Text.encode text))])).handles[h]? = some j := by
      rw [after_concat, handles_call, opened]
    rw [answer_read still, MemoryStore.read_eq_ok, MemoryStore.bytes?_ofFiles, written_concat]
    simp only [writesTo, shared, if_true, MemoryCall.writes]
    rw [Assoc.last?_concat, if_pos rfl]
  case quiet =>
    intro k path later call among
    have none : call.writes = [] := by
      simp only [List.mem_cons, List.not_mem_nil, or_false] at among
      rcases among with rfl | rfl | rfl | rfl <;> rfl
    unfold after
    rw [List.foldl_append, List.foldl_append, List.foldl_cons, act_of_writes none]

/-- Texts are initialised through one handle, and one of them is overwritten through a clone, with a
byte that is no text. A third handle is for another store. -/
theorem answers_shared_files_clones :
    let run : List StoreAction := [.make, .clone 0, .make,
      .call 0 (.initWith [("/b.ts", "let é;"), ("/a.ts", "")]), .call 1 (.write ⟨"/a.ts"⟩ [0xFF]),
      .call 2 (.write ⟨"/c.ts"⟩ [0x61])]
    (after run).handles = [0, 0, 1] ∧
      (∃ e, (after run).answer 0 (.read ⟨"/a.ts"⟩) = some (.text (.error e)) ∧
        e.kind = .invalidData) ∧
      (after run).answer 1 (.read ⟨"/b.ts"⟩) = some (.text (.ok "let é;")) ∧
      (∃ e, (after run).answer 1 (.read ⟨"/c.ts"⟩) = some (.text (.error e)) ∧ e.kind = .notFound) ∧
      ∃ paths, (after run).answer 1 .paths = some (.listing paths) ∧
        ∀ path, path ∈ paths ↔ path = ⟨"/a.ts"⟩ ∨ path = ⟨"/b.ts"⟩ := by
  intro run
  have files : written 0 run = [(⟨"/b.ts"⟩, Text.encode "let é;"), (⟨"/a.ts"⟩, Text.encode ""),
    (⟨"/a.ts"⟩, [0xFF])] := rfl
  obtain ⟨-, readA, -⟩ := answers_shared_files run (show (after run).handles[0]? = some 0 from rfl)
  obtain ⟨-, readB, missing, ⟨paths, listed, -, mem⟩, -⟩ :=
    answers_shared_files run (show (after run).handles[1]? = some 0 from rfl)
  rw [files] at readA readB missing mem
  refine ⟨rfl, ?_, ?_, ?_, paths, listed, fun path => ?_⟩
  · refine (readA ⟨"/a.ts"⟩ [0xFF] (by simp [Assoc.last?])).2.2 ?_
    rw [Text.isValidUTF8_iff]
    rintro ⟨text, whole⟩
    cases Text.decode_eq_ok_iff.2 whole
  · have inB := readB ⟨"/b.ts"⟩ (Text.encode "let é;") (by simp [Assoc.last?, Assoc.lookup_cons])
    refine (inB.1 "let é;").2 ?_
    exact (Text.toByteArray_encode "let é;").symm
  · refine (missing ⟨"/c.ts"⟩).2 fun bytes => ?_
    simp
  · rw [mem]
    simp only [List.mem_cons, Prod.mk.injEq, List.not_mem_nil, or_false]
    constructor
    · rintro ⟨bytes, ⟨rfl, -⟩ | ⟨rfl, -⟩ | ⟨rfl, -⟩⟩
      · exact .inr rfl
      · exact .inl rfl
      · exact .inl rfl
    · rintro (rfl | rfl)
      · exact ⟨_, .inr (.inl ⟨rfl, rfl⟩)⟩
      · exact ⟨_, .inl ⟨rfl, rfl⟩⟩

end SharedStores

end PlaceholderExports
