import PlaceholderExports.Session

/-!
# Shared stores in memory

A store in memory is used through handles. A clone of a handle is for the same store, so what is
written through one of them is found through all. Calls never fail but for the reading of a text,
and they are made one after the other.

* `MemoryStore.perform`: what a call answers, and the store that it leaves.
* `SharedStores.act`, `SharedStores.answer`: the same through handles.
-/

namespace PlaceholderExports

open PlaceholderExports.Text (Bytes)

/-- A call of a store in memory. -/
inductive MemoryCall where
  /-- Adds the texts of some files; of several under one path the last one counts. -/
  | initWith (files : List (String × String))
  | write (path : FsPath) (bytes : Bytes)
  /-- Directories exist only as parts of paths, so there is nothing to do. -/
  | ensureDir (path : FsPath)
  | read (path : FsPath)
  | contains (path : FsPath)
  | paths
deriving DecidableEq, Repr

/-- What a call answers. -/
inductive MemoryAnswer where
  | done
  | text (result : Except StoreError String)
  | presence (found : Bool)
  | listing (paths : List FsPath)

/-- What a call answers, and the store that it leaves. -/
def MemoryStore.perform (s : MemoryStore) : MemoryCall → MemoryAnswer × MemoryStore
  | .initWith files =>
    (.done, files.foldl (fun s (path, text) => s.write ⟨path⟩ (Text.encode text)) s)
  | .write path bytes => (.done, s.write path bytes)
  | .ensureDir _ => (.done, s)
  | .read path => (.text (s.read path), s)
  | .contains path => (.presence (s.contains path), s)
  | .paths => (.listing s.paths, s)

/-- What the users of stores do. Handles are numbered in the order in which they come up. -/
inductive StoreAction where
  /-- Makes an empty store, with a handle for it. -/
  | make
  /-- Adds a handle for the store of another one. -/
  | clone (handle : Nat)
  | call (handle : Nat) (call : MemoryCall)
deriving DecidableEq, Repr

/-- Stores, and for each handle the number of its store. -/
structure SharedStores where
  stores : List MemoryStore := []
  handles : List Nat := []
deriving DecidableEq, Repr

namespace SharedStores

/-- The stores after an action; nothing is done with a handle that there is not. -/
def act (w : SharedStores) : StoreAction → SharedStores
  | .make => ⟨w.stores ++ [{}], w.handles ++ [w.stores.length]⟩
  | .clone h =>
    match w.handles[h]? with
    | none => w
    | some j => { w with handles := w.handles ++ [j] }
  | .call h call =>
    match w.handles[h]? with
    | none => w
    | some j => { w with stores := w.stores.modify j fun s => (s.perform call).2 }

/-- What a call through a handle answers. -/
def answer (w : SharedStores) (h : Nat) (call : MemoryCall) : Option MemoryAnswer :=
  w.handles[h]?.bind fun j => w.stores[j]?.map fun s => (s.perform call).1

/-- The stores after some actions, from none on. -/
def after (run : List StoreAction) : SharedStores := run.foldl act {}

end SharedStores

end PlaceholderExports
