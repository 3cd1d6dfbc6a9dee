import OutlineTables.Disk.Basic
import OutlineTables.Rows.OfOutline
import OutlineTables.Rows.Schema
import OutlineTables.Store.Limits

/-!
The statements that bring a store in line with the files on disk. Deletions come first, then
renames by way of paths that no file has, then insertions; all rows of a file follow its row in
`files`.
-/
namespace OutlineTables

/-- Why a sync cannot be done. -/
inductive SyncFault where
  | noPath
  | noStore
  | disk (fault : DiskFault)
  | numeral (fault : NumeralFault)
  | sql (fault : SqlFault)
  | store (fault : StoreFault)

def SyncFault.message : SyncFault → Text
  | noPath => "expected str, bytes or os.PathLike object, not NoneType".toList
  | noStore => "SyncService.sync needs a database engine".toList
  | disk f => f.message
  | numeral f => f.message
  | sql f => f.message
  | store f => f.message

/-- What the reading of files and the writing of their rows depend on. -/
structure Mapping where
  options : Options
  dialect : Dialect

namespace Mapping

/-- The outline of a file on disk. -/
def outline (m : Mapping) (d : Disk) (p : Path) : Except DiskFault Outline :=
  (d.readText p).map (Outline.read m.options)

/-- The rows of a file on disk. -/
def rows (m : Mapping) (d : Disk) (f : FileMeta) : Except SyncFault Rows :=
  match f.diskPath with
  | none => .error .noPath
  | some path =>
    match m.outline d (Path.ofText path) with
    | .error e => .error (.disk e)
    | .ok x => (Rows.ofOutline m.options x path f.hash f.size).mapError .numeral

/-- The SQL text of statements, or the fault of the first that has none. -/
def toSql (m : Mapping) (statements : List Statement) : Except SyncFault (List Text) :=
  (statements.mapM (Statement.toSql m.dialect Rows.schema)).mapError .sql

/-- The insertions of the rows of a file. A file with a row that has no SQL text is refused. -/
def insertions (m : Mapping) (d : Disk) (f : FileMeta) : Except SyncFault (List Statement) := do
  let statements := Statement.inserts Rows.schema (← m.rows d f).records
  discard (m.toSql statements)
  .ok statements

end Mapping

namespace Report

/-- Marks the paths that files have between the two halves of a rename. -/
def moveMark : Text := ".org-sql-move-".toList

/-- The path of the n-th file to be renamed, while it is between its two paths. -/
def betweenPath (f : FileMeta) (n : Nat) : Text :=
  f.storePath.getD "None".toList ++ moveMark ++ Text.ofNat n

def pathRecord (path : Option Text) : Record := [("file_path", .ofText? path)]

/-- A change of the path of a file. -/
def rename (old new : Option Text) : Statement := .update "files" (pathRecord new) (pathRecord old)

/-- Renames in two rounds, so that files can take over each other's paths. -/
def renames (r : Report) : List Statement :=
  (r.update.zipIdx.map fun (f, n) => rename f.storePath (betweenPath f n)) ++
    r.update.zipIdx.map fun (f, n) => rename (betweenPath f n) f.diskPath

def deletions (r : Report) : List Statement :=
  r.delete.map fun f => .delete "files" (pathRecord f.storePath)

/-- All statements that a report asks for. -/
def statements (m : Mapping) (d : Disk) (r : Report) : Except SyncFault (List Statement) := do
  let inserted ← r.insert.mapM (m.insertions d)
  .ok (r.deletions ++ r.renames ++ inserted.flatten)

end Report

namespace Store

def cellText? : Cell → Option Text
  | .text t => some t
  | _ => none

def cellInt? : Cell → Option Int
  | .int n => some n
  | _ => none

/-- The stored files in the order of their insertion. -/
def files (s : Store) : List FileMeta :=
  (s.rows "files").map fun r => {
    hash := (cellText? (r.cell "md5")).getD []
    storePath := cellText? (r.cell "file_path")
    size := cellInt? (r.cell "size") }

/-- What differs between the outline files of some paths and the stored files. -/
def changes (s : Store) (d : Disk) (paths : List Path) : Report :=
  Report.ofFiles (d.scanAll paths) s.files

/-- The store brought in line with the outline files of some paths, and what was done. -/
def sync (m : Mapping) (d : Disk) (paths : List Path) (s : Store) :
    Except SyncFault (Report × Store) := do
  let r := s.changes d paths
  let synced ← (s.performAll m.dialect Rows.schema (← r.statements m d)).mapError .store
  .ok (r, synced)

end Store

end OutlineTables
