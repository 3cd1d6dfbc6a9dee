import OutlineTables.Firsts
import OutlineTables.Text.Basic

/-!
Files on disk against files in the store. Files are the same by the hash of their contents, so a
file that keeps its hash under another path has moved, and one that is edited in place is deleted
and inserted.
-/
namespace OutlineTables

/-- A file on disk, in the store, or in both. -/
structure FileMeta where
  hash : Text
  diskPath : Option Text := none
  storePath : Option Text := none
  size : Option Int := none
deriving DecidableEq, Repr

namespace FileMeta

/-- The path on disk, if it is not empty, else the path in the store. -/
def path? (m : FileMeta) : Option Text :=
  match m.diskPath with
  | some (c :: cs) => some (c :: cs)
  | _ => m.storePath

def isMove (m : FileMeta) : Bool :=
  match m.diskPath, m.storePath with
  | some d, some s => d ≠ s
  | _, _ => false

/-- A file on disk joined with a file of the same contents in the store. -/
def joined (disk store : FileMeta) : FileMeta :=
  { disk with storePath := store.storePath }

end FileMeta

/-- What a sync has to do with the files of both sides. -/
structure Report where
  insert : List FileMeta := []
  /-- Files stored under another path. -/
  update : List FileMeta := []
  delete : List FileMeta := []
  noop : List FileMeta := []
deriving DecidableEq, Repr

namespace Report

def changes (r : Report) : Nat := r.insert.length + r.update.length + r.delete.length

def append (a b : Report) : Report where
  insert := a.insert ++ b.insert
  update := a.update ++ b.update
  delete := a.delete ++ b.delete
  noop := a.noop ++ b.noop

/-- Files that are on both sides under one path, then what is left of each side. -/
def stayed : List FileMeta → List FileMeta → List FileMeta × List FileMeta × List FileMeta
  | [], store => ([], [], store)
  | d :: disk, store =>
    match store.find? (·.storePath = d.diskPath) with
    | some s =>
      let (same, ds, ss) := stayed disk (store.eraseP (·.storePath = d.diskPath))
      (d.joined s :: same, ds, ss)
    | none =>
      let (same, ds, ss) := stayed disk store
      (same, d :: ds, ss)

/-- Files of one hash: equal paths pair first, the rest in order, and what finds no partner is
inserted or deleted. -/
def ofGroup (disk store : List FileMeta) : Report :=
  let (same, ds, ss) := stayed disk store
  { insert := ds.drop ss.length
    update := ds.zipWith FileMeta.joined ss
    delete := ss.drop ds.length
    noop := same }

/-- The report on all files, hash by hash, the hashes on disk first. -/
def ofFiles (disk store : List FileMeta) : Report :=
  ((firsts ((disk ++ store).map (·.hash))).map fun h =>
    ofGroup (disk.filter (·.hash = h)) (store.filter (·.hash = h))).foldr append {}

end Report

end OutlineTables
