import OutlineTables.Proofs.Disk.Scans
import OutlineTables.Proofs.Sync.Runs

/-!
Overlapping paths. Main statement: a scan lists a file once for each of its paths under which the
file is found, and tables without rows take what a scan lists only if no file is listed twice.
-/
namespace OutlineTables

open Rows (schema)

namespace Mapping

variable {m : Mapping} {d : Disk} {f : Text × Encoding.Bytes} {x : FileMeta}

/-- The rows of the file can be inserted into tables without rows. -/
def Inserts (m : Mapping) (d : Disk) (x : FileMeta) : Prop :=
  ∃ xs s, m.insertions d x = .ok xs ∧
    (Store.ofSchema schema).performAll m.dialect schema xs = .ok s

theorem inserts_iff (hx : OnDisk f x) (hc : d.content? (Path.ofText f.1) = some f.2) :
    m.Inserts d x ↔ ∃ r, m.Holds f.1 f.2 r := by
  constructor
  · rintro ⟨xs, s, hxs, hok⟩
    obtain ⟨r, hr, rfl⟩ := (insertions_eq_ok hx hc).mp hxs
    exact ⟨r, (mirrors_empty m).holds_of_insert hr.1 hr.2 hok⟩
  · rintro ⟨r, hr⟩
    have hone : ([f].map Prod.fst ++ ([] : List (Text × Encoding.Bytes)).map Prod.fst).Nodup :=
      List.nodup_singleton f.1
    obtain ⟨s, hs⟩ := (mirrors_empty m).exists_insertions hone
      (List.Forall₂.cons hr List.Forall₂.nil)
    rw [List.flatMap_singleton] at hs
    exact ⟨_, s, (insertions_eq_ok hx hc).mpr ⟨r, hr.reads, rfl⟩, hs⟩

/-- Each of some files can be inserted alone if all of them have rows. -/
theorem forall_inserts_iff {scanned : List (Text × Encoding.Bytes)} {xs : List FileMeta}
    (hlisted : List.Forall₂ OnDisk scanned xs)
    (hread : ∀ f ∈ scanned, d.content? (Path.ofText f.1) = some f.2) :
    (∀ x ∈ xs, m.Inserts d x) ↔
      ∃ rs, List.Forall₂ (fun f r => m.Holds f.1 f.2 r) scanned rs := by
  induction hlisted with
  | nil => exact ⟨fun _ => ⟨[], List.Forall₂.nil⟩, fun _ x hx => absurd hx List.not_mem_nil⟩
  | cons hx _ ih =>
    obtain ⟨hf, hread⟩ := List.forall_mem_cons.mp hread
    rw [List.forall_mem_cons, inserts_iff hx hf, ih hread]
    constructor
    · rintro ⟨⟨r, hr⟩, rs, hrs⟩
      exact ⟨r :: rs, List.Forall₂.cons hr hrs⟩
    · rintro ⟨_, hrs⟩
      obtain ⟨r, rs, hr, hrs, -⟩ := List.forall₂_cons_left_iff.mp hrs
      exact ⟨⟨r, hr⟩, rs, hrs⟩

/-- The statements that insert some files into an empty store, once their rows are read. -/
theorem statements_empty {paths : List Path} {new : List (Text × Encoding.Bytes)}
    (hasks : Asks ((Store.ofSchema schema).changes d paths) [] new [])
    (hread : ∀ f ∈ new, d.content? (Path.ofText f.1) = some f.2) {xs : List Statement} :
    ((Store.ofSchema schema).changes d paths).statements m d = .ok xs ↔
      ∃ rs, List.Forall₂ m.Reads new rs ∧
        (rs.flatMap fun r => Statement.inserts schema r.records) = xs := by
  rw [statements_eq_ok hasks hread, hasks.deletions_eq, hasks.renames_eq]
  rfl

end Mapping

namespace Disk

open Mapping

/-- Into tables without rows all files that a scan lists are new. -/
theorem exists_new {d : Disk} (hd : d.IsTree) (m : Mapping) (paths : List Text) :
    ∃ new : List (Text × Encoding.Bytes),
      Asks ((Store.ofSchema schema).changes d (paths.map Path.ofText)) [] new [] ∧
      (∀ f ∈ new, d.content? (Path.ofText f.1) = some f.2) ∧
      ((new.map Prod.fst ++ ([] : List (Text × Encoding.Bytes)).map Prod.fst).Nodup ↔
        ((d.scanAll (paths.map Path.ofText)).map (·.diskPath)).Nodup) ∧
      ((∀ x ∈ d.scanAll (paths.map Path.ofText), m.Inserts d x) ↔
        ∃ rs, List.Forall₂ (fun f r => m.Holds f.1 f.2 r) new rs) := by
  obtain ⟨scanned, hlisted, hread⟩ := exists_listed hd paths
  obtain ⟨new, hasks, hscanned⟩ := exists_asks_empty hlisted
  -- New files come in another order than they are listed, which changes neither.
  refine ⟨new, hasks, fun f hf => hread f (hscanned.mem_iff.mpr hf), ?_, ?_⟩
  · rw [List.map_nil, List.append_nil, ← (hscanned.map Prod.fst).nodup_iff, nodup_paths_iff hlisted]
  · rw [forall_inserts_iff hlisted hread]
    constructor
    · rintro ⟨rs, hrs⟩
      obtain ⟨rs', hrs', -⟩ := List.perm_comp_forall₂ hscanned.symm hrs
      exact ⟨rs', hrs'⟩
    · rintro ⟨rs, hrs⟩
      obtain ⟨rs', hrs', -⟩ := List.perm_comp_forall₂ hscanned hrs
      exact ⟨rs', hrs'⟩

/-- Tables without rows take the files exactly if each of them alone is taken and none is listed
twice. -/
theorem exists_sync_empty_iff {d : Disk} (hd : d.IsTree) (m : Mapping) (paths : List Text) :
    (∃ r s, (Store.ofSchema schema).sync m d (paths.map Path.ofText) = .ok (r, s)) ↔
      ((d.scanAll (paths.map Path.ofText)).map (·.diskPath)).Nodup ∧
        ∀ x ∈ d.scanAll (paths.map Path.ofText), m.Inserts d x := by
  obtain ⟨new, hasks, hread, hnodup, hholds⟩ := exists_new hd m paths
  constructor
  · rintro ⟨r, s, hok⟩
    obtain ⟨rfl, xs, hxs, hok⟩ := sync_eq_ok.mp hok
    obtain ⟨rs, hrs, rfl⟩ := (statements_empty hasks hread).mp hxs
    obtain ⟨hmirrors, hall⟩ := (mirrors_empty m).insertions hrs hok
    exact ⟨hnodup.mp (by simpa using hmirrors.nodup), hholds.mpr ⟨rs, hall⟩⟩
  · rintro ⟨hn, hall⟩
    obtain ⟨rs, hrs⟩ := hholds.mp hall
    obtain ⟨s, hs⟩ := (mirrors_empty m).exists_insertions (hnodup.mpr hn) hrs
    have hxs := (statements_empty hasks hread).mpr ⟨rs, hrs.imp fun _ _ => Holds.reads, rfl⟩
    exact ⟨_, s, sync_eq_ok.mpr ⟨rfl, _, hxs, hs⟩⟩

/-- The second row of a file that is listed twice breaks the key of `files`. -/
theorem sync_empty_of_not_nodup {d : Disk} (hd : d.IsTree) (m : Mapping) (paths : List Text)
    (hn : ¬((d.scanAll (paths.map Path.ofText)).map (·.diskPath)).Nodup)
    (hall : ∀ x ∈ d.scanAll (paths.map Path.ofText), m.Inserts d x) :
    (Store.ofSchema schema).sync m d (paths.map Path.ofText) =
      .error (.store (.notUnique "files" ["file_path"])) := by
  obtain ⟨new, hasks, hread, hnodup, hholds⟩ := exists_new hd m paths
  obtain ⟨rs, hrs⟩ := hholds.mp hall
  have hxs := (statements_empty (m := m) hasks hread).mpr
    ⟨rs, hrs.imp fun _ _ => Holds.reads, rfl⟩
  exact sync_eq_error hxs ((mirrors_empty m).insertions_twice (fun h => hn (hnodup.mp h)) hrs)

/-- A file is listed as often as there are paths under which it is found. Into tables without rows
the files are taken exactly if each of them alone is and none is listed twice; what is listed twice
breaks the key of `files`. -/
theorem scan_overlaps {d : Disk} (hd : d.IsTree) (m : Mapping) (paths : List Text) :
    let ps := paths.map Path.ofText
    let listed := (d.scanAll ps).map (·.diskPath)
    let sync := (Store.ofSchema schema).sync m d ps
    (∀ x : Path, x.Proper → listed.count (some x.toText) = ps.countP (d.finds x)) ∧
      (listed.Nodup ↔ ∀ x : Path, x.Proper → ps.countP (d.finds x) ≤ 1) ∧
      ((∃ r s, sync = .ok (r, s)) ↔ listed.Nodup ∧ ∀ x ∈ d.scanAll ps, m.Inserts d x) ∧
      (¬listed.Nodup → (∀ x ∈ d.scanAll ps, m.Inserts d x) →
        sync = .error (.store (.notUnique "files" ["file_path"]))) := by
  intro ps listed sync
  have hproper : ∀ p ∈ ps, p.Proper := by
    intro p hp
    obtain ⟨t, -, rfl⟩ := List.mem_map.mp hp
    exact Path.proper_ofText t
  exact ⟨fun x hx => hd.count_scanAll hproper hx, hd.nodup_scanAll_iff hproper,
    exists_sync_empty_iff hd m paths, sync_empty_of_not_nodup hd m paths⟩

/-- A folder, and a folder inside it, both with the same file. -/
theorem scan_overlaps_nested :
    let d : Disk := write {} (Path.ofText "d/e/a.org".toList) []
    let m : Mapping := ⟨.default, .sqlite⟩
    let paths := ["d".toList, "d/e".toList]
    let ps := paths.map Path.ofText
    let listed := (d.scanAll ps).map (·.diskPath)
    d.IsTree ∧ listed.count (some "d/e/a.org".toList) = 2 ∧ ¬listed.Nodup ∧
      (∀ x ∈ d.scanAll ps, m.Inserts d x) ∧
      (Store.ofSchema schema).sync m d ps =
        .error (.store (.notUnique "files" ["file_path"])) := by
  intro d m paths ps listed
  have hd : d.IsTree := isTree_empty.write (Path.proper_ofText _) []
  obtain ⟨hcount, hnodup, -, htwice⟩ := scan_overlaps hd m paths
  have hproper : (Path.ofText "d/e/a.org".toList).Proper := Path.proper_ofText _
  have hfound : ps.countP (d.finds (Path.ofText "d/e/a.org".toList)) = 2 := by decide +kernel
  have hn : ¬listed.Nodup := by
    intro h
    have hle := hnodup.mp h _ hproper
    rw [hfound] at hle
    omega
  have hall : ∀ x ∈ d.scanAll ps, m.Inserts d x := by
    intro x hx
    have hok : ∀ x ∈ d.scanAll ps, (m.insertions d x >>= fun xs =>
        ((Store.ofSchema schema).performAll m.dialect schema xs).mapError .store).isOk = true := by
      decide +kernel
    obtain ⟨s, hs⟩ := exists_ok (hok x hx)
    obtain ⟨xs, hxs, hs⟩ := bind_eq_ok.mp hs
    exact ⟨xs, s, hxs, mapError_eq_ok.mp hs⟩
  exact ⟨hd, (hcount _ hproper).trans hfound, hn, hall, htwice hn hall⟩

/-- A scan may list a file twice. -/
theorem not_nodup_scanAll : ¬∀ (d : Disk) (paths : List Text), d.IsTree →
    ((d.scanAll (paths.map Path.ofText)).map (·.diskPath)).Nodup := by
  intro h
  have hd : Disk.IsTree (write {} (Path.ofText "d/a.org".toList) []) :=
    isTree_empty.write (Path.proper_ofText _) []
  exact absurd (h _ ["d".toList, "d/a.org".toList] hd) (by decide +kernel)

end Disk

end OutlineTables
